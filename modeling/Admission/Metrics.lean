/-
  Admission.Metrics — the figures that a monitor may scrape.

  The recorder counts admissions, refusals by reason and missed deadlines, and keeps the latest two
  gauges.  A figure appears in the exposition from the first time on that it was recorded.  The
  exposition is given as its lines in rising order, without those that hang on the wall clock.
-/
import Admission.Gate.Basic

namespace Admission

/-- What was recorded since the recorder was installed. -/
structure Metrics where
  admitted : Nat
  /-- How many spans of waiting were recorded, those of no length included. -/
  waits : Nat
  rejectedCapacity : Nat
  rejectedTimeout : Nat
  rejectedCancelled : Nat
  deadlineExceeded : Nat
  /-- Requests in flight and waiting, as last reported. -/
  gauges : Option (Nat × Nat)
deriving DecidableEq

namespace Metrics

def empty : Metrics := ⟨0, 0, 0, 0, 0, 0, none⟩

/-- An admission, with one more span of waiting. -/
def recordAdmitted (m : Metrics) : Metrics :=
  { m with admitted := m.admitted + 1, waits := m.waits + 1 }

def recordRejected (m : Metrics) : Reason → Metrics
  | .capacity => { m with rejectedCapacity := m.rejectedCapacity + 1 }
  | .timeout false => { m with rejectedTimeout := m.rejectedTimeout + 1 }
  | .timeout true => { m with rejectedCancelled := m.rejectedCancelled + 1 }

def recordDeadlineExceeded (m : Metrics) : Metrics :=
  { m with deadlineExceeded := m.deadlineExceeded + 1 }

/-- Takes the gauges from a snapshot. -/
def recordSnapshot (m : Metrics) (s : Gate.Snapshot) : Metrics :=
  { m with gauges := some (s.inFlight.toNat, s.waiting.toNat) }

/-- The lines that say of which kind a figure is. -/
def kindLine (name kind : String) : String := "# TYPE " ++ name ++ " " ++ kind

def figureLine (name : String) (n : Nat) : String := name ++ " " ++ toString n

/-- Lines that appear once something was recorded. -/
def onceRecorded (n : Nat) (line : String) : List String := if n = 0 then [] else [line]

/-- The name under which the refusals for a reason are told. -/
def rejectedName (reason : Reason) : String :=
  "throttle_rejected_total\x7breason=\"" ++ reason.label ++ "\"\x7d"

/-- The line of one reason for refusals. -/
def rejectedLine (reason : Reason) (n : Nat) : List String :=
  onceRecorded n (figureLine (rejectedName reason) n)

/-- All refusals. -/
def rejected (m : Metrics) : Nat := m.rejectedCapacity + m.rejectedTimeout + m.rejectedCancelled

/-- The lines of the exposition, in rising order. -/
def lines (m : Metrics) : List String :=
  let gauge (line : Nat × Nat → String) : List String := (m.gauges.map line).toList
  onceRecorded m.deadlineExceeded (kindLine "http_deadline_exceeded_total" "counter") ++
  onceRecorded m.admitted (kindLine "throttle_admitted_total" "counter") ++
  gauge (fun _ => kindLine "throttle_in_flight" "gauge") ++
  onceRecorded m.rejected (kindLine "throttle_rejected_total" "counter") ++
  onceRecorded m.waits (kindLine "throttle_wait_seconds" "summary") ++
  gauge (fun _ => kindLine "throttle_waiting" "gauge") ++
  onceRecorded m.deadlineExceeded
    (figureLine "http_deadline_exceeded_total" m.deadlineExceeded) ++
  onceRecorded m.admitted (figureLine "throttle_admitted_total" m.admitted) ++
  gauge (fun g => figureLine "throttle_in_flight" g.1) ++
  rejectedLine (.timeout true) m.rejectedCancelled ++
  rejectedLine .capacity m.rejectedCapacity ++
  rejectedLine (.timeout false) m.rejectedTimeout ++
  onceRecorded m.waits (figureLine "throttle_wait_seconds_count" m.waits) ++
  gauge (fun g => figureLine "throttle_waiting" g.2)

/-- What a second attempt to install the recorder is told. -/
def alreadyInstalled : String :=
  "failed to install exporter as global recorder: " ++
  "attempted to set a recorder after the metrics system was already initialized"

end Metrics

end Admission

/-
  Admission.Gate.Figures — the document of a gate's figures.

  The figures are written as an object of eight integers, in a fixed order.
-/
import Admission.Gate.Basic
import Admission.Json.Shape

namespace Admission.Gate.Snapshot

/-- The document of a snapshot. -/
def toValue (s : Snapshot) : Json.Value :=
  .object
    [("limit", .ofNat s.limit.toNat),
     ("backlog_capacity", .ofNat s.backlogCapacity.toNat),
     ("in_flight", .ofNat s.inFlight.toNat),
     ("waiting", .ofNat s.waiting.toNat),
     ("admitted_total", .ofNat s.admitted.toNat),
     ("rejected_capacity_total", .ofNat s.rejectedCapacity.toNat),
     ("rejected_timeout_total", .ofNat s.rejectedTimeout.toNat),
     ("rejected_cancelled_total", .ofNat s.rejectedCancelled.toNat)]

def shape : Json.Shape :=
  .record "GateSnapshot"
    [("limit", .size), ("backlog_capacity", .size), ("in_flight", .size), ("waiting", .size),
     ("admitted_total", .word64), ("rejected_capacity_total", .word64),
     ("rejected_timeout_total", .word64), ("rejected_cancelled_total", .word64)]

def ofValue? (v : Json.Value) : Option Snapshot := do
  let word (name : String) : Option UInt64 := do
    some (.ofNat (← (← v.member? name).asInt?).toNat)
  some
    { limit := ← word "limit"
      backlogCapacity := ← word "backlog_capacity"
      inFlight := ← word "in_flight"
      waiting := ← word "waiting"
      admitted := ← word "admitted_total"
      rejectedCapacity := ← word "rejected_capacity_total"
      rejectedTimeout := ← word "rejected_timeout_total"
      rejectedCancelled := ← word "rejected_cancelled_total" }

end Admission.Gate.Snapshot

/-
  Admission.Gate.Basic — the admission gate as a state machine.

  Two pools of permits decide.  A request first takes a BACKLOG permit, without waiting: there are
  as many as requests may run or wait.  Then it takes a RUN permit, or is parked at the end of the
  line until one is handed to it.  A returned run permit goes to the first in line that has none;
  only when nobody lacks one does it go back to the pool.  A ticket holds both permits and gives
  them back together, once.

  Every operation is a function from a gate to a gate, so a run of the gate is a fold.
-/
import Admission.Rejection
import Admission.Timer

namespace Admission

/-! ## §1. The state. -/

/-- A request parked at the gate.  It holds a backlog permit; `handed` says that a run permit was
handed to it which it has not taken up yet. -/
structure Waiter where
  id : Nat
  /-- When it began to wait. -/
  since : Duration
  handed : Bool
deriving DecidableEq

/-- What an admitted request holds until it gives it back. -/
structure Ticket where
  id : Nat
  run : Bool
  backlog : Bool
deriving DecidableEq

/-- Neither permit is held any more. -/
def Ticket.isReleased (t : Ticket) : Bool := !t.run && !t.backlog

/-- How many requests ended in which way. -/
structure Counters where
  admitted : Nat
  capacity : Nat
  timeout : Nat
  cancelled : Nat
deriving DecidableEq

namespace Counters

def zero : Counters := ⟨0, 0, 0, 0⟩

def recordAdmitted (c : Counters) : Counters := { c with admitted := c.admitted + 1 }

def recordRejected (c : Counters) : Reason → Counters
  | .capacity => { c with capacity := c.capacity + 1 }
  | .timeout false => { c with timeout := c.timeout + 1 }
  | .timeout true => { c with cancelled := c.cancelled + 1 }

/-- How many refusals for a reason there were. -/
def rejected (c : Counters) : Reason → Nat
  | .capacity => c.capacity
  | .timeout false => c.timeout
  | .timeout true => c.cancelled

end Counters

/-- The gate. -/
structure Gate where
  /-- How many run permits there are. -/
  limit : Nat
  /-- How many backlog permits there are. -/
  capacity : Nat
  wait : BacklogWait
  /-- Run permits in the pool. -/
  freeRun : Nat
  /-- Backlog permits in the pool. -/
  freeBacklog : Nat
  /-- The parked requests, longest wait first. -/
  waiters : List Waiter
  /-- The tickets that were issued and not dropped, oldest first. -/
  tickets : List Ticket
  counters : Counters
deriving DecidableEq

/-- What a poll of a request that asks for admission yields. -/
inductive Verdict where
  | admitted
  | rejected (reason : Reason)
  | parked
deriving DecidableEq

/-- The instant at which a wait that began at `since` has taken too long. -/
def BacklogWait.expiry? (w : BacklogWait) (since : Duration) : Option Duration :=
  w.duration?.map (Timer.after since)

/-- A wait that began at `since` has taken too long at `now`. -/
def BacklogWait.expired (w : BacklogWait) (since now : Duration) : Bool :=
  match w.expiry? since with
  | some t => Timer.Due t now
  | none => false

namespace Gate

/-- A gate with all permits in its pools. -/
def ofLimits (limit capacity : Nat) (wait : BacklogWait) : Gate :=
  { limit, capacity, wait, freeRun := limit, freeBacklog := capacity, waiters := [], tickets := [],
    counters := .zero }

/-- The gate of sound options. -/
def ofOptions (o : Options) : Except OptionsError Gate :=
  match o.validate with
  | .error e => .error e
  | .ok () =>
    match o.capacity? with
    | none => .error .sumOverflows
    | some capacity => .ok (ofLimits o.limit.toNat capacity o.wait)

/-! ## §2. Permits. -/

/-- The line after a run permit was handed to the first in it that has none; nothing if all have. -/
def handFirst : List Waiter → Option (List Waiter)
  | [] => none
  | w :: ws =>
    if w.handed then (handFirst ws).map (w :: ·)
    else some ({ w with handed := true } :: ws)

/-- A run permit comes back. -/
def returnRun (g : Gate) : Gate :=
  match handFirst g.waiters with
  | some ws => { g with waiters := ws }
  | none => { g with freeRun := g.freeRun + 1 }

/-- A backlog permit comes back. -/
def returnBacklog (g : Gate) : Gate := { g with freeBacklog := g.freeBacklog + 1 }

def recordRejected (g : Gate) (reason : Reason) : Gate :=
  { g with counters := g.counters.recordRejected reason }

/-! ## §3. Admission. -/

def waiter? (g : Gate) (id : Nat) : Option Waiter := g.waiters.find? (·.id == id)

/-- The line without a request. -/
def unpark (g : Gate) (id : Nat) : Gate :=
  { g with waiters := g.waiters.filter (·.id != id) }

/-- A ticket for a request that holds both permits. -/
def issue (g : Gate) (id : Nat) : Gate :=
  { g with
    tickets := g.tickets ++ [⟨id, true, true⟩]
    counters := g.counters.recordAdmitted }

/-- A parked request leaves without a ticket: its run permit, if one was handed to it, goes on to
the next, and its backlog permit returns. -/
def leave (g : Gate) (w : Waiter) (reason : Reason) : Gate :=
  let g := g.unpark w.id
  let g := if w.handed then g.returnRun else g
  g.returnBacklog.recordRejected reason

/-- A poll of a parked request.  Its context comes first, then the run permit, then the timer. -/
def resume (g : Gate) (id : Nat) (now : Duration) (done : Bool) : Gate × Verdict :=
  match g.waiter? id with
  | none => (g, .parked)
  | some w =>
    if done then (g.leave w (.timeout true), .rejected (.timeout true))
    else if w.handed then ((g.unpark id).issue id, .admitted)
    else if g.wait.expired w.since now then
      (g.leave w (.timeout false), .rejected (.timeout false))
    else (g, .parked)

/-- The line with a request at its end. -/
def park (g : Gate) (id : Nat) (now : Duration) : Gate :=
  { g with waiters := g.waiters ++ [⟨id, now, false⟩] }

/-- The first poll of a request that asks for admission. -/
def enter (g : Gate) (id : Nat) (now : Duration) (done : Bool) : Gate × Verdict :=
  if done then (g.recordRejected (.timeout true), .rejected (.timeout true))
  else if g.freeBacklog = 0 then (g.recordRejected .capacity, .rejected .capacity)
  else
    let g := { g with freeBacklog := g.freeBacklog - 1 }
    if 0 < g.freeRun then (({ g with freeRun := g.freeRun - 1 }).issue id, .admitted)
    else (g.park id now).resume id now false

/-- A parked request is dropped by its caller; one that is not parked leaves no trace. -/
def abandon (g : Gate) (id : Nat) : Gate :=
  match g.waiter? id with
  | none => g
  | some w => g.leave w (.timeout true)

/-! ## §4. Tickets. -/

def ticket? (g : Gate) (id : Nat) : Option Ticket := g.tickets.find? (·.id == id)

/-- The permits of a ticket come back: the run permit first, so that whoever takes the backlog
permit next can have it. -/
def giveBack (g : Gate) (t : Ticket) : Gate :=
  let g := if t.run then g.returnRun else g
  if t.backlog then g.returnBacklog else g

/-- A ticket without its permits. -/
def spent (t : Ticket) : Ticket := { t with run := false, backlog := false }

/-- Releases the ticket of a request; a second release changes nothing. -/
def release (g : Gate) (id : Nat) : Gate :=
  match g.ticket? id with
  | none => g
  | some t =>
    { g.giveBack t with
      tickets := g.tickets.map fun u => if u.id == id then spent u else u }

/-- Drops the ticket of a request, which releases it first. -/
def discard (g : Gate) (id : Nat) : Gate :=
  let g := g.release id
  { g with tickets := g.tickets.filter (·.id != id) }

/-! ## §5. Observation. -/

/-- The figures of a gate at one instant, in machine words. -/
structure Snapshot where
  limit : UInt64
  backlogCapacity : UInt64
  inFlight : UInt64
  waiting : UInt64
  admitted : UInt64
  rejectedCapacity : UInt64
  rejectedTimeout : UInt64
  rejectedCancelled : UInt64
deriving DecidableEq

/-- Run permits that are not in the pool. -/
def inFlight (g : Gate) : Nat := g.limit - g.freeRun

/-- Backlog permits that are not in the pool. -/
def pending (g : Gate) : Nat := g.capacity - g.freeBacklog

/-- Pending requests beyond those in flight. -/
def waiting (g : Gate) : Nat := g.pending - g.inFlight

def snapshot (g : Gate) : Snapshot :=
  { limit := .ofNat g.limit
    backlogCapacity := .ofNat g.capacity
    inFlight := .ofNat g.inFlight
    waiting := .ofNat g.waiting
    admitted := .ofNat g.counters.admitted
    rejectedCapacity := .ofNat g.counters.capacity
    rejectedTimeout := .ofNat g.counters.timeout
    rejectedCancelled := .ofNat g.counters.cancelled }

end Gate

end Admission

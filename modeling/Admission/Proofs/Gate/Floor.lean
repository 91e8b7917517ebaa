/-
  Admission.Proofs.Gate.Floor — calls and releases taken apart into single operations.

  Elsewhere a poll or a release is one step.  Here each takes as many steps as it has operations on
  the two pools, and between any two of them anything may happen: a call takes a backlog permit,
  then tries to take a run permit, then is parked; when it gives up it leaves the line, then gives
  its backlog permit back; a ticket gives back its run permit, then its backlog permit.  The FLOOR
  is a gate with the calls that are under way, and a run is any list of moves of any of them.  Whose
  context ends and whose timer runs out is left open: the moves say so.

  Main result: `Floor.motion` — what one move can do.
-/
import Admission.Proofs.Gate.History

namespace Admission.Gate

/-! ## §1. Single operations. -/

/-- What a call that holds a backlog permit and has no ticket does next. -/
inductive Stage where
  /-- It takes a run permit if one is free. -/
  | tryRun
  /-- It takes a run permit, or is parked. -/
  | queue
  /-- It waits where it is parked. -/
  | parked
  /-- It gives its backlog permit back, and is counted. -/
  | leaving (reason : Reason)
deriving DecidableEq

structure Caller where
  id : Nat
  stage : Stage
deriving DecidableEq

def Caller.withStage (stage : Stage) (c : Caller) : Caller := { c with stage }

/-- A gate and the calls that are under way. -/
structure Floor where
  gate : Gate
  /-- The calls that hold a backlog permit and have no ticket. -/
  callers : List Caller
  /-- The number of the next call. -/
  fresh : Nat

/-- One operation of a call or of a ticket. -/
inductive Move where
  /-- A new call takes a backlog permit, unless its context has ended. -/
  | call (done : Bool)
  | tryRun (id : Nat)
  | queue (id : Nat) (now : Duration) (done : Bool)
  /-- A parked call is polled. -/
  | wake (id : Nat) (done expired : Bool)
  /-- A parked call is dropped by its caller. -/
  | abandon (id : Nat)
  /-- A call that has left the line, or never stood in it, gives its backlog permit back. -/
  | depart (id : Nat)
  /-- The first half of a release. -/
  | returnRun (id : Nat)
  /-- The second half of a release. -/
  | returnBacklog (id : Nat)
  /-- A ticket without permits is dropped. -/
  | forget (id : Nat)

/-- A ticket without its run permit. -/
def withoutRun (t : Ticket) : Ticket := { t with run := false }

/-- A ticket without its backlog permit. -/
def withoutBacklog (t : Ticket) : Ticket := { t with backlog := false }

/-- The ticket of a request lets go of its run permit. -/
def dropRun (g : Gate) (id : Nat) : Gate :=
  { g with tickets := g.tickets.map fun t => if t.id == id then withoutRun t else t }

/-- The ticket of a request lets go of its backlog permit. -/
def dropBacklog (g : Gate) (id : Nat) : Gate :=
  { g with tickets := g.tickets.map fun t => if t.id == id then withoutBacklog t else t }

namespace Floor

/-- A gate before any call. -/
def ofGate (g : Gate) : Floor := ⟨g, [], 0⟩

def caller? (f : Floor) (id : Nat) : Option Caller := f.callers.find? (·.id == id)

/-- The gate changes, and a call has a next move. -/
def goOn (f : Floor) (g : Gate) (id : Nat) (stage : Stage) : Floor :=
  { f with
    gate := g
    callers := f.callers.map fun c => if c.id == id then c.withStage stage else c }

/-- The gate changes, and a call has its ticket or has ended. -/
def finish (f : Floor) (g : Gate) (id : Nat) : Floor :=
  { f with gate := g, callers := f.callers.filter (·.id != id) }

/-- A parked call leaves the line.  A run permit that was handed to it goes on in the same
operation. -/
def quit (f : Floor) (u : Waiter) (reason : Reason) : Floor :=
  let g := f.gate.unpark u.id
  f.goOn (if u.handed then g.returnRun else g) u.id (.leaving reason)

/-- One move.  A move that is not the next one of its call or ticket does nothing. -/
def step (f : Floor) : Move → Floor
  | .call done =>
      if done then
        { f with gate := f.gate.recordRejected (.timeout true), fresh := f.fresh + 1 }
      else if f.gate.freeBacklog = 0 then
        { f with gate := f.gate.recordRejected .capacity, fresh := f.fresh + 1 }
      else ⟨f.gate.takeBacklog, f.callers ++ [⟨f.fresh, .tryRun⟩], f.fresh + 1⟩
  | .tryRun id =>
      match f.caller? id with
      | some ⟨_, .tryRun⟩ =>
          if 0 < f.gate.freeRun then f.finish (f.gate.takeRun.issue id) id
          else f.goOn f.gate id .queue
      | _ => f
  | .queue id now done =>
      match f.caller? id with
      | some ⟨_, .queue⟩ =>
          if done then f.goOn f.gate id (.leaving (.timeout true))
          else if 0 < f.gate.freeRun then f.finish (f.gate.takeRun.issue id) id
          else f.goOn (f.gate.park id now) id .parked
      | _ => f
  | .wake id done expired =>
      match f.gate.waiter? id with
      | some u =>
          if done then f.quit u (.timeout true)
          else if u.handed then f.finish ((f.gate.unpark id).issue id) id
          else if expired then f.quit u (.timeout false)
          else f
      | none => f
  | .abandon id =>
      match f.gate.waiter? id with
      | some u => f.quit u (.timeout true)
      | none => f
  | .depart id =>
      match f.caller? id with
      | some ⟨_, .leaving reason⟩ =>
          f.finish (f.gate.returnBacklog.recordRejected reason) id
      | _ => f
  | .returnRun id =>
      match f.gate.ticket? id with
      | some t => if t.run then { f with gate := (f.gate.dropRun id).returnRun } else f
      | none => f
  | .returnBacklog id =>
      match f.gate.ticket? id with
      | some t =>
          if !t.run && t.backlog then { f with gate := (f.gate.dropBacklog id).returnBacklog }
          else f
      | none => f
  | .forget id =>
      match f.gate.ticket? id with
      | some t => if t.isReleased then { f with gate := f.gate.forget id } else f
      | none => f

/-- One move after the other. -/
def run (f : Floor) (ms : List Move) : Floor := ms.foldl step f

@[simp] theorem run_nil (f : Floor) : f.run [] = f := rfl

@[simp] theorem run_cons (f : Floor) (m : Move) (ms : List Move) :
    f.run (m :: ms) = (f.step m).run ms := rfl

theorem run_append (f : Floor) (ms ms' : List Move) : f.run (ms ++ ms') = (f.run ms).run ms' :=
  List.foldl_append

end Floor

/-! ## §2. What one move can do. -/

/-- **THE CASES OF A MOVE**, each with the conditions under which it is made. -/
inductive Motion (f : Floor) : Floor → Prop where
  /-- A new call is turned away: it has ended, or the gate is full. -/
  | refused {reason : Reason} (hr : reason ≠ .timeout false) :
      Motion f { f with gate := f.gate.recordRejected reason, fresh := f.fresh + 1 }
  | called (hb : 0 < f.gate.freeBacklog) :
      Motion f ⟨f.gate.takeBacklog, f.callers ++ [⟨f.fresh, .tryRun⟩], f.fresh + 1⟩
  /-- A call takes a run permit that is free. -/
  | took {c : Caller} (hc : f.caller? c.id = some c) (hs : c.stage = .tryRun ∨ c.stage = .queue)
      (hr : 0 < f.gate.freeRun) : Motion f (f.finish (f.gate.takeRun.issue c.id) c.id)
  /-- A call finds no run permit free. -/
  | missed {c : Caller} (hc : f.caller? c.id = some c) (hs : c.stage = .tryRun)
      (hr : f.gate.freeRun = 0) : Motion f (f.goOn f.gate c.id .queue)
  /-- The context of a call ends before the call is parked. -/
  | turnedBack {c : Caller} (hc : f.caller? c.id = some c) (hs : c.stage = .queue) :
      Motion f (f.goOn f.gate c.id (.leaving (.timeout true)))
  | parked {c : Caller} (hc : f.caller? c.id = some c) (hs : c.stage = .queue)
      (hr : f.gate.freeRun = 0) (now : Duration) :
      Motion f (f.goOn (f.gate.park c.id now) c.id .parked)
  /-- A parked call takes up the run permit that it was handed. -/
  | tookUp {u : Waiter} (hu : f.gate.waiter? u.id = some u) (hh : u.handed = true) :
      Motion f (f.finish ((f.gate.unpark u.id).issue u.id) u.id)
  | quit {u : Waiter} (hu : f.gate.waiter? u.id = some u) (reason : Reason) :
      Motion f (f.quit u reason)
  | departed {c : Caller} (hc : f.caller? c.id = some c) {reason : Reason}
      (hs : c.stage = .leaving reason) :
      Motion f (f.finish (f.gate.returnBacklog.recordRejected reason) c.id)
  | runReturned {t : Ticket} (ht : f.gate.ticket? t.id = some t) (hr : t.run = true) :
      Motion f { f with gate := (f.gate.dropRun t.id).returnRun }
  | backlogReturned {t : Ticket} (ht : f.gate.ticket? t.id = some t) (hr : t.run = false)
      (hb : t.backlog = true) : Motion f { f with gate := (f.gate.dropBacklog t.id).returnBacklog }
  | forgotten {t : Ticket} (ht : f.gate.ticket? t.id = some t) (hl : t.isReleased = true) :
      Motion f { f with gate := f.gate.forget t.id }
  | idle : Motion f f

namespace Floor

theorem id_of_caller? {f : Floor} {id : Nat} {c : Caller} (h : f.caller? id = some c) :
    c.id = id := by
  simpa using List.find?_some h

theorem mem_of_caller? {f : Floor} {id : Nat} {c : Caller} (h : f.caller? id = some c) :
    c ∈ f.callers :=
  List.mem_of_find?_eq_some h

/-- **WHAT ONE MOVE CAN DO.** -/
theorem motion (f : Floor) (m : Move) : Motion f (f.step m) := by
  -- a move whose guard fails does nothing; the others are one motion each
  cases m with
  | call done =>
      simp only [step]
      split
      next => exact .refused (by decide)
      next =>
        split
        next => exact .refused (by decide)
        next hb => exact .called (Nat.pos_of_ne_zero hb)
  | tryRun id =>
      simp only [step]
      split
      next i hc =>
        have hid := id_of_caller? hc
        subst hid
        split
        next hr => exact .took hc (.inl rfl) hr
        next hr => exact .missed hc rfl (Nat.eq_zero_of_not_pos hr)
      next => exact .idle
  | queue id now done =>
      simp only [step]
      split
      next i hc =>
        have hid := id_of_caller? hc
        subst hid
        split
        next => exact .turnedBack hc rfl
        next =>
          split
          next hr => exact .took hc (.inr rfl) hr
          next hr => exact .parked hc rfl (Nat.eq_zero_of_not_pos hr) now
      next => exact .idle
  | wake id done expired =>
      simp only [step]
      split
      next u hu =>
        have hid := id_of_waiter? hu
        subst hid
        split
        next => exact .quit hu _
        next =>
          split
          next hh => exact .tookUp hu hh
          next =>
            split
            next => exact .quit hu _
            next => exact .idle
      next => exact .idle
  | abandon id =>
      simp only [step]
      split
      next u hu =>
        have hid := id_of_waiter? hu
        subst hid
        exact .quit hu _
      next => exact .idle
  | depart id =>
      simp only [step]
      split
      next i reason hc =>
        have hid := id_of_caller? hc
        subst hid
        exact .departed hc rfl
      next => exact .idle
  | returnRun id =>
      simp only [step]
      split
      next t ht =>
        have hid := id_of_ticket? ht
        subst hid
        split
        next hr => exact .runReturned ht hr
        next => exact .idle
      next => exact .idle
  | returnBacklog id =>
      simp only [step]
      split
      next t ht =>
        have hid := id_of_ticket? ht
        subst hid
        split
        next hb =>
          obtain ⟨hr, hb⟩ : t.run = false ∧ t.backlog = true := by simpa using hb
          exact .backlogReturned ht hr hb
        next => exact .idle
      next => exact .idle
  | forget id =>
      simp only [step]
      split
      next t ht =>
        have hid := id_of_ticket? ht
        subst hid
        split
        next hl => exact .forgotten ht hl
        next => exact .idle
      next => exact .idle

end Floor

end Admission.Gate

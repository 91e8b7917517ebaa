/-
  Admission.Proofs.Gate.Renumbered — the numbers of requests are names, and no more.

  The gate knows its requests by numbers, which it compares for equality and never otherwise.  So if
  all requests are given other numbers, different ones to different requests, every operation does the
  same under the new numbers: the verdicts, the permits, the order of the line and the counters are
  those that they were.

  Main results:
    * `enter_renumber`, `resume_renumber` — polls;
    * `abandon_renumber`, `release_renumber`, `discard_renumber` — what comes back;
    * `snapshot_renumber` — the figures do not show the numbers.
-/
import Admission.Gate.Basic
import Mathlib.Logic.Function.Basic

namespace Admission

/-! ## §1. Other numbers. -/

/-- The parked request under another number. -/
def Waiter.renumber (f : Nat → Nat) (w : Waiter) : Waiter := { w with id := f w.id }

/-- The ticket under another number. -/
def Ticket.renumber (f : Nat → Nat) (t : Ticket) : Ticket := { t with id := f t.id }

namespace Gate

/-- The gate whose requests have other numbers. -/
def renumber (f : Nat → Nat) (g : Gate) : Gate :=
  { g with
    waiters := g.waiters.map (·.renumber f)
    tickets := g.tickets.map (·.renumber f) }

/-- The figures do not show the numbers. -/
@[simp] theorem snapshot_renumber (f : Nat → Nat) (g : Gate) :
    (g.renumber f).snapshot = g.snapshot := rfl

/-! ## §2. Permits. -/

/-- Who is first in the line does not hang on the numbers. -/
theorem handFirst_renumber (f : Nat → Nat) (ws : List Waiter) :
    handFirst (ws.map (·.renumber f)) = (handFirst ws).map (List.map (·.renumber f)) := by
  induction ws with
  | nil => rfl
  | cons w rest ih =>
      show (if w.handed then (handFirst (rest.map (·.renumber f))).map (w.renumber f :: ·)
          else some ({ w.renumber f with handed := true } :: rest.map (·.renumber f)))
        = (if w.handed then (handFirst rest).map (w :: ·)
          else some ({ w with handed := true } :: rest)).map _
      rw [ih]
      by_cases hw : w.handed = true
      · rw [if_pos hw, if_pos hw, Option.map_map, Option.map_map]
        rfl
      · rw [if_neg hw, if_neg hw]
        rfl

theorem returnRun_renumber (f : Nat → Nat) (g : Gate) :
    (g.renumber f).returnRun = g.returnRun.renumber f := by
  unfold returnRun
  rw [show (g.renumber f).waiters = g.waiters.map (·.renumber f) from rfl, handFirst_renumber]
  cases handFirst g.waiters <;> rfl

theorem giveBack_renumber (f : Nat → Nat) (g : Gate) (t : Ticket) :
    (g.renumber f).giveBack (t.renumber f) = (g.giveBack t).renumber f := by
  unfold giveBack
  rw [show (t.renumber f).run = t.run from rfl, show (t.renumber f).backlog = t.backlog from rfl,
    returnRun_renumber]
  cases t.run <;> cases t.backlog <;> rfl

theorem issue_renumber (f : Nat → Nat) (g : Gate) (id : Nat) :
    (g.renumber f).issue (f id) = (g.issue id).renumber f := by
  have htickets : g.tickets.map (Ticket.renumber f) ++ [(⟨f id, true, true⟩ : Ticket)]
      = (g.tickets ++ [(⟨id, true, true⟩ : Ticket)]).map (Ticket.renumber f) := by
    rw [List.map_append]
    rfl
  exact congrArg (fun tickets =>
    { g.renumber f with tickets, counters := g.counters.recordAdmitted }) htickets

theorem park_renumber (f : Nat → Nat) (g : Gate) (id : Nat) (now : Duration) :
    (g.renumber f).park (f id) now = (g.park id now).renumber f := by
  have hwaiters : g.waiters.map (Waiter.renumber f) ++ [(⟨f id, now, false⟩ : Waiter)]
      = (g.waiters ++ [(⟨id, now, false⟩ : Waiter)]).map (Waiter.renumber f) := by
    rw [List.map_append]
    rfl
  exact congrArg (fun waiters => { g.renumber f with waiters }) hwaiters

section Injective

variable {f : Nat → Nat} (hf : Function.Injective f)

include hf

theorem waiter?_renumber (g : Gate) (id : Nat) :
    (g.renumber f).waiter? (f id) = (g.waiter? id).map (·.renumber f) := by
  show (g.waiters.map _).find? _ = (g.waiters.find? _).map _
  rw [List.find?_map]
  congr 2
  funext w
  exact Bool.eq_iff_iff.mpr (by simp [Waiter.renumber, hf.eq_iff])

theorem ticket?_renumber (g : Gate) (id : Nat) :
    (g.renumber f).ticket? (f id) = (g.ticket? id).map (·.renumber f) := by
  show (g.tickets.map _).find? _ = (g.tickets.find? _).map _
  rw [List.find?_map]
  congr 2
  funext t
  exact Bool.eq_iff_iff.mpr (by simp [Ticket.renumber, hf.eq_iff])

theorem unpark_renumber (g : Gate) (id : Nat) :
    (g.renumber f).unpark (f id) = (g.unpark id).renumber f := by
  have hwaiters : (g.waiters.map (·.renumber f)).filter (·.id != f id)
      = (g.waiters.filter (·.id != id)).map (·.renumber f) := by
    rw [List.filter_map]
    congr 2
    funext w
    exact Bool.eq_iff_iff.mpr (by simp [Waiter.renumber, hf.eq_iff])
  exact congrArg (fun waiters => { g.renumber f with waiters }) hwaiters

theorem leave_renumber (g : Gate) (w : Waiter) (reason : Reason) :
    (g.renumber f).leave (w.renumber f) reason = (g.leave w reason).renumber f := by
  unfold leave
  rw [show (w.renumber f).id = f w.id from rfl, show (w.renumber f).handed = w.handed from rfl,
    unpark_renumber hf]
  cases w.handed with
  | true =>
      simp only [if_true]
      rw [returnRun_renumber]
      rfl
  | false => rfl

/-! ## §3. Polls. -/

/-- **A LATER POLL** under other numbers. -/
theorem resume_renumber (g : Gate) (id : Nat) (now : Duration) (done : Bool) :
    (g.renumber f).resume (f id) now done
      = ((g.resume id now done).1.renumber f, (g.resume id now done).2) := by
  unfold resume
  rw [waiter?_renumber hf]
  cases g.waiter? id with
  | none => rfl
  | some w =>
      simp only [Option.map_some, leave_renumber hf, unpark_renumber hf, issue_renumber]
      rw [show (w.renumber f).handed = w.handed from rfl,
        show (w.renumber f).since = w.since from rfl,
        show (g.renumber f).wait = g.wait from rfl]
      split
      · rfl
      · split
        · rfl
        · split <;> rfl

/-- **THE FIRST POLL** under other numbers. -/
theorem enter_renumber (g : Gate) (id : Nat) (now : Duration) (done : Bool) :
    (g.renumber f).enter (f id) now done
      = ((g.enter id now done).1.renumber f, (g.enter id now done).2) := by
  unfold enter
  rw [show (g.renumber f).freeBacklog = g.freeBacklog from rfl,
    show (g.renumber f).freeRun = g.freeRun from rfl]
  split
  · rfl
  · split
    · rfl
    · -- the backlog permit is taken before the run permit is looked for
      simp only
      split
      · exact congrArg (·, Verdict.admitted)
          (issue_renumber f { g with freeBacklog := g.freeBacklog - 1, freeRun := g.freeRun - 1 } id)
      · have hpark := park_renumber f { g with freeBacklog := g.freeBacklog - 1 } id now
        have hresume := resume_renumber hf
          (Gate.park { g with freeBacklog := g.freeBacklog - 1 } id now) id now false
        rw [← hpark] at hresume
        exact hresume

/-! ## §4. What comes back. -/

theorem abandon_renumber (g : Gate) (id : Nat) :
    (g.renumber f).abandon (f id) = (g.abandon id).renumber f := by
  unfold abandon
  rw [waiter?_renumber hf]
  cases g.waiter? id with
  | none => rfl
  | some w => exact leave_renumber hf g w (.timeout true)

theorem release_renumber (g : Gate) (id : Nat) :
    (g.renumber f).release (f id) = (g.release id).renumber f := by
  unfold release
  rw [ticket?_renumber hf]
  cases g.ticket? id with
  | none => rfl
  | some t =>
      have htickets : (g.tickets.map (·.renumber f)).map
            (fun u => if u.id == f id then spent u else u)
          = (g.tickets.map fun u => if u.id == id then spent u else u).map (·.renumber f) := by
        rw [List.map_map, List.map_map]
        refine List.map_congr_left fun u _ => ?_
        show (if f u.id == f id then spent (u.renumber f) else u.renumber f)
          = (if u.id == id then spent u else u).renumber f
        by_cases hu : u.id = id
        · rw [if_pos (by simp [hu]), if_pos (by simp [hu])]
          rfl
        · rw [if_neg (by simpa [hf.eq_iff] using hu), if_neg (by simpa using hu)]
      show { (g.renumber f).giveBack (t.renumber f) with
        tickets := (g.tickets.map (Ticket.renumber f)).map
          fun u : Ticket => if u.id == f id then spent u else u } = _
      rw [giveBack_renumber, htickets]
      rfl

theorem discard_renumber (g : Gate) (id : Nat) :
    (g.renumber f).discard (f id) = (g.discard id).renumber f := by
  unfold discard
  simp only
  rw [release_renumber hf]
  have htickets : ((g.release id).tickets.map (·.renumber f)).filter (·.id != f id)
      = ((g.release id).tickets.filter (·.id != id)).map (·.renumber f) := by
    rw [List.filter_map]
    congr 2
    funext t
    exact Bool.eq_iff_iff.mpr (by simp [Ticket.renumber, hf.eq_iff])
  exact congrArg (fun tickets => { (g.release id).renumber f with tickets }) htickets

end Injective

end Gate

end Admission

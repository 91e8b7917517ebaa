/-
  Admission.Proofs.Gate.History — what befalls the calls of a run, in order.

  A TURN is one thing that befalls a call: it is parked, it is handed a run permit where it is
  parked, it gets its ticket, it is turned away, its caller drops it, its ticket lets go of its
  permits.  The HISTORY of a run lists the turns of all calls, oldest first.  `Passage` lists what
  one step can do, each case with the gate that it leaves and the turn that it brings; what holds of
  every history is proved in these cases and carried to whole runs by `history_induction`.

  Main results:
    * `Sound.passage` — the cases of a step are exhaustive;
    * `history_induction` — from one step to a whole run;
    * `Sound.sorted_run` — parked calls stand in the order of their arrival.
-/
import Admission.Proofs.Gate.World

namespace Admission.Gate

/-! ## §1. Turns. -/

/-- What befalls a call. -/
inductive Turn where
  /-- It is parked at the end of the line. -/
  | entered
  /-- It is handed a run permit where it is parked. -/
  | handed
  /-- It gets its ticket. -/
  | admitted
  | rejected (reason : Reason)
  /-- Its caller drops it where it is parked. -/
  | abandoned
  /-- Its ticket lets go of its permits. -/
  | released
deriving DecidableEq

namespace Turn

/-- What a verdict on a first poll means to the call. -/
def ofVerdict : Verdict → Turn
  | .admitted => .admitted
  | .rejected reason => .rejected reason
  | .parked => .entered

/-- The reason under which a turn counts as a refusal. -/
def reason? : Turn → Option Reason
  | .rejected reason => some reason
  | .abandoned => some (.timeout true)
  | _ => none

end Turn

/-- The request holds a ticket that was not released. -/
def holds (g : Gate) (id : Nat) : Bool :=
  match g.ticket? id with
  | some t => !t.isReleased
  | none => false

/-- Who stood in line without a run permit in `g` and has been handed one in `g'`. -/
def handedOver (g g' : Gate) : List Nat :=
  (g.line.map (·.id)).filter fun i => g'.promised.any (·.id == i)

namespace World

/-- What a step does to the call that it is about. -/
def ownTurns (w : World) : Action → List (Nat × Turn)
  | .arrive c =>
      match (w.step (.arrive c)).2 with
      | some v => [(w.calls.length, .ofVerdict v)]
      | none => []
  | .poll id =>
      match (w.step (.poll id)).2 with
      | some .admitted => [(id, .admitted)]
      | some (.rejected reason) => [(id, .rejected reason)]
      | _ => []
  | .release id | .discard id => if w.gate.holds id then [(id, .released)] else []
  | .abandon id => if (w.gate.waiter? id).isSome then [(id, .abandoned)] else []
  | .cancel _ | .advance _ => []

/-- All turns of a step: what it does to its own call, and to whom it hands a run permit. -/
def turns (w : World) (a : Action) : List (Nat × Turn) :=
  w.ownTurns a ++ (handedOver w.gate (w.step a).1.gate).map (·, .handed)

/-- The turns of a run, oldest first. -/
def history : World → List Action → List (Nat × Turn)
  | _, [] => []
  | w, a :: as => w.turns a ++ history (w.step a).1 as

end World

/-! ## §2. What a step can do. -/

/-- **THE CASES OF A STEP**: the gate `g` and the number `n` of calls before it, then both after it,
and the turn that it brings to its own call. -/
inductive Passage (g : Gate) (n : Nat) : Gate → Nat → List (Nat × Turn) → Prop where
  /-- A new call is turned away at its first poll. -/
  | refused (reason : Reason) :
      Passage g n (g.recordRejected reason) (n + 1) [(n, .rejected reason)]
  /-- A new call finds a permit of each kind. -/
  | admitted (hb : 0 < g.freeBacklog) (hr : 0 < g.freeRun) :
      Passage g n (g.takeBacklog.takeRun.issue n) (n + 1) [(n, .admitted)]
  /-- A new call finds no run permit and is parked. -/
  | entered (hb : 0 < g.freeBacklog) (hr : g.freeRun = 0) (now : Duration) :
      Passage g n (g.takeBacklog.park n now) (n + 1) [(n, .entered)]
  /-- A parked call takes up the run permit that it was handed. -/
  | tookUp {u : Waiter} (hu : g.waiter? u.id = some u) (hh : u.handed = true) :
      Passage g n ((g.unpark u.id).issue u.id) n [(u.id, .admitted)]
  /-- A parked call is turned away or dropped. -/
  | left {u : Waiter} (hu : g.waiter? u.id = some u) {t : Turn} {reason : Reason}
      (ht : t.reason? = some reason) : Passage g n (g.leave u reason) n [(u.id, t)]
  | released {t : Ticket} (ht : g.ticket? t.id = some t) (hl : t.isReleased = false) :
      Passage g n (g.release t.id) n [(t.id, .released)]
  | discarded {t : Ticket} (ht : g.ticket? t.id = some t) (hl : t.isReleased = false) :
      Passage g n (g.discard t.id) n [(t.id, .released)]
  /-- A ticket without permits is dropped. -/
  | forgotten {id : Nat} (h : ∀ t ∈ g.tickets, t.id = id → t.isReleased = true) :
      Passage g n (g.forget id) n []
  | idle : Passage g n g n []

/-- A ticket without permits has nothing to let go of. -/
theorem Balanced.isReleased_of_not_holds {g : Gate} {r b : Nat} (h : Balanced g r b) {id : Nat}
    (hn : g.holds id = false) : ∀ t ∈ g.tickets, t.id = id → t.isReleased = true := by
  intro t ht hid
  subst hid
  have hf : g.ticket? t.id = some t := find?_of_mem Ticket.id h.tickets_nodup ht
  simpa [holds, hf] using hn

theorem exists_ticket_of_holds {g : Gate} {id : Nat} (h : g.holds id = true) :
    ∃ t, g.ticket? id = some t ∧ t.isReleased = false := by
  unfold holds at h
  cases ht : g.ticket? id with
  | none => simp [ht] at h
  | some t => exact ⟨t, rfl, by simpa [ht] using h⟩

namespace World

variable {w : World}

theorem Sound.passage_arrive (h : w.Sound) (c : Context) :
    Passage w.gate w.calls.length (w.step (.arrive c)).1.gate
      (w.step (.arrive c)).1.calls.length (w.ownTurns (.arrive c)) := by
  have hw : w.calls.length ∉ w.gate.waiters.map (·.id) :=
    fun hm => h.fresh (List.mem_append_right _ hm)
  have he := enter_entry w.gate hw w.now (c.isDone w.tokens w.now)
  simp only [ownTurns, World.step, List.length_append, List.length_singleton]
  generalize w.gate.enter w.calls.length w.now (c.isDone w.tokens w.now) = out at he ⊢
  cases he with
  | ended => exact .refused _
  | full => exact .refused _
  | admitted _ hb hr => exact .admitted hb hr
  | impatient => exact .refused _
  | parked _ hb hr => exact .entered hb hr _

theorem passage_poll (w : World) (id : Nat) :
    Passage w.gate w.calls.length (w.step (.poll id)).1.gate
      (w.step (.poll id)).1.calls.length (w.ownTurns (.poll id)) := by
  simp only [ownTurns, World.step]
  cases hu : w.gate.waiter? id with
  | none => exact .idle
  | some u =>
      have hid := id_of_waiter? hu
      subst hid
      have hr := resume_resumption w.gate hu w.now (w.isOver u.id)
      simp only
      generalize w.gate.resume u.id w.now (w.isOver u.id) = out at hr ⊢
      cases hr with
      | ended => exact .left hu rfl
      | admitted _ hh => exact .tookUp hu hh
      | expired => exact .left hu rfl
      | parked => exact .idle

/-- **WHAT ONE STEP CAN DO.** -/
theorem Sound.passage (h : w.Sound) (a : Action) :
    Passage w.gate w.calls.length (w.step a).1.gate (w.step a).1.calls.length (w.ownTurns a) := by
  cases a with
  | arrive c => exact h.passage_arrive c
  | poll id => exact passage_poll w id
  | release id =>
      simp only [ownTurns, World.step]
      split
      next hh =>
        obtain ⟨t, ht, hl⟩ := exists_ticket_of_holds hh
        have hid := id_of_ticket? ht
        subst hid
        exact .released ht hl
      next hh =>
        -- a ticket that holds nothing has nothing to give back
        rw [release_of_released (h.balanced.isReleased_of_not_holds (by simpa using hh))]
        exact .idle
  | discard id =>
      simp only [ownTurns, World.step]
      split
      next hh =>
        obtain ⟨t, ht, hl⟩ := exists_ticket_of_holds hh
        have hid := id_of_ticket? ht
        subst hid
        exact .discarded ht hl
      next hh =>
        have hr := h.balanced.isReleased_of_not_holds (by simpa using hh)
        rw [discard_eq, release_of_released hr]
        exact .forgotten hr
  | abandon id =>
      simp only [ownTurns, World.step]
      cases hu : w.gate.waiter? id with
      | none =>
          rw [abandon_of_none hu]
          exact .idle
      | some u =>
          have hid := id_of_waiter? hu
          subst hid
          rw [abandon_of_some hu]
          exact .left hu rfl
  | cancel t => exact .idle
  | advance ms => exact .idle

/-! ## §3. From one step to a whole run. -/

section Induction

variable (Inv : World → List (Nat × Turn) → Prop)
  (hstep : ∀ {w : World} {past : List (Nat × Turn)} (a : Action), w.Sound → Inv w past →
    Inv (w.step a).1 (past ++ w.turns a))

include hstep

theorem history_induction_from {past : List (Nat × Turn)} (hs : w.Sound) (h : Inv w past)
    (as : List Action) : Inv (w.run as) (past ++ w.history as) := by
  induction as generalizing w past with
  | nil =>
      rw [history, List.append_nil]
      exact h
  | cons a as ih =>
      rw [history, ← List.append_assoc]
      exact ih (hs.step a) (hstep a hs h)

/-- **AN INVARIANT OF WORLDS AND THEIR HISTORIES**: what every step keeps holds after every run. -/
theorem history_induction (hs : w.Sound) (h : Inv w []) (as : List Action) :
    Inv (w.run as) (w.history as) := by
  have hfrom := history_induction_from Inv hstep hs h as
  rwa [List.nil_append] at hfrom

end Induction

end World

/-! ## §4. What the moves do to waiters, tickets and counters. -/

@[simp] theorem counters_returnRun (g : Gate) : g.returnRun.counters = g.counters := by
  unfold returnRun
  cases handFirst g.waiters <;> rfl

theorem counters_leave (g : Gate) (u : Waiter) (reason : Reason) :
    (g.leave u reason).counters = g.counters.recordRejected reason := by
  unfold leave
  cases u.handed with
  | true =>
      show (g.unpark u.id).returnRun.counters.recordRejected reason = _
      rw [counters_returnRun]
      rfl
  | false => rfl

/-- A release that has something to give back gives back a permit of each kind. -/
theorem Balanced.release_of_live {g : Gate} {r b : Nat} (h : Balanced g r b) {t : Ticket}
    (ht : g.ticket? t.id = some t) (hl : t.isReleased = false) :
    g.release t.id = (g.spend t.id).returnRun.returnBacklog := by
  have hp := h.paired t (mem_of_ticket? ht)
  have hrun : t.run = true := by
    rw [isReleased_eq_not_run hp] at hl
    simpa using hl
  rw [release_eq ht hp, if_pos hrun]

theorem map_id_release {g : Gate} {r b : Nat} (h : Balanced g r b) {t : Ticket}
    (ht : g.ticket? t.id = some t) (hl : t.isReleased = false) :
    (g.release t.id).waiters.map (·.id) = g.waiters.map (·.id) := by
  rw [h.release_of_live ht hl]
  exact map_id_returnRun _

theorem counters_release {g : Gate} {r b : Nat} (h : Balanced g r b) {t : Ticket}
    (ht : g.ticket? t.id = some t) (hl : t.isReleased = false) :
    (g.release t.id).counters = g.counters := by
  rw [h.release_of_live ht hl]
  exact counters_returnRun _

/-! ## §5. The order of the parked calls. -/

namespace World

variable {w : World}

/-- Parked calls stand in the order of their arrival. -/
def Sorted (w : World) : Prop := (w.gate.waiters.map (·.id)).Pairwise (· < ·)

theorem Sound.sorted_step (h : w.Sound) (hs : w.Sorted) (a : Action) : (w.step a).1.Sorted := by
  have hp := h.passage a
  have hbelow : ∀ i ∈ w.gate.waiters.map (·.id), i < w.calls.length :=
    fun i hi => h.known i (List.mem_append_right _ hi)
  unfold Sorted at hs ⊢
  generalize (w.step a).1.gate = g' at hp ⊢
  generalize (w.step a).1.calls.length = n' at hp
  generalize w.ownTurns a = own at hp
  cases hp with
  | refused | admitted | forgotten | idle => exact hs
  | entered _ _ now =>
      -- the newcomer has the highest number so far
      have hpark : (w.gate.takeBacklog.park w.calls.length now).waiters
          = w.gate.waiters ++ [⟨w.calls.length, now, false⟩] := rfl
      rw [hpark, List.map_append, List.pairwise_append]
      refine ⟨hs, List.pairwise_singleton _ _, fun i hi j hj => ?_⟩
      rw [List.mem_singleton.mp hj]
      exact hbelow i hi
  | @tookUp u =>
      show ((w.gate.unpark u.id).waiters.map (·.id)).Pairwise (· < ·)
      rw [map_id_unpark]
      exact hs.filter _
  | left =>
      rw [map_id_leave]
      exact hs.filter _
  | released ht hl =>
      rw [map_id_release h.balanced ht hl]
      exact hs
  | discarded ht hl =>
      show ((w.gate.release _).waiters.map (·.id)).Pairwise (· < ·)
      rw [map_id_release h.balanced ht hl]
      exact hs

theorem Sound.sorted_run (h : w.Sound) (hs : w.Sorted) (as : List Action) :
    (w.run as).Sorted := by
  induction as generalizing w with
  | nil => exact hs
  | cons a as ih => exact ih (h.step a) (h.sorted_step hs a)

end World

end Admission.Gate

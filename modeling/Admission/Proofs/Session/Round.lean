/-
  Admission.Proofs.Session.Round — rounds of polls, and when a session has settled.

  A round polls the tasks in the order of their creation.  What one poll does to the shared scene is
  told by an invariant that is indexed by the place of the task in that order, and `pollAll_range`
  runs it through all of them.  A session that a further round leaves as it is has settled
  (`settle_eq_round`).
-/
import Mathlib.Data.List.Range
import Admission.Session.Basic

namespace Admission.Session

/-! ## §1. Polls in a row. -/

theorem pollAll_eq_self {xs : List Task} {s : Scene} (h : ∀ t ∈ xs, t.poll s = (t, s)) :
    pollAll xs s = (xs, s) := by
  induction xs with
  | nil => rfl
  | cons t rest ih =>
      simp only [pollAll, h t (by simp), ih fun u hu => h u (by simp [hu])]

/-- **A STRETCH OF TASKS**: if the poll of each task takes the invariant one place further, the
polls of all of them take it to the end. -/
theorem pollAll_range (Inv : Nat → Scene → Prop) (old new : Nat → Task)
    (shown : Nat → List Event) (n : Nat) : ∀ (lo : Nat) (s : Scene),
    (∀ k s, lo ≤ k → k < lo + n → Inv k s → ∃ s', (old k).poll s = (new k, s')
      ∧ Inv (k + 1) s' ∧ s'.log = s.log ++ shown k) →
    Inv lo s → ∃ s', pollAll ((List.range' lo n).map old) s = ((List.range' lo n).map new, s')
      ∧ Inv (lo + n) s' ∧ s'.log = s.log ++ (List.range' lo n).flatMap shown := by
  induction n with
  | zero =>
      intro lo s _ h
      exact ⟨s, rfl, h, by simp⟩
  | succ n ih =>
      intro lo s hstep h
      obtain ⟨s1, hpoll, hinv, hlog⟩ := hstep lo s (Nat.le_refl _) (by omega) h
      obtain ⟨s2, hall, hinv', hlog'⟩ :=
        ih (lo + 1) s1 (fun k s hk hk' => hstep k s (by omega) (by omega)) hinv
      refine ⟨s2, ?_, ?_, ?_⟩
      · simp only [List.range'_succ, List.map_cons, pollAll, hpoll, hall]
      · rw [show lo + (n + 1) = lo + 1 + n from by omega]
        exact hinv'
      · rw [hlog', hlog, List.range'_succ, List.flatMap_cons, List.append_assoc]

/-! ## §2. Settling. -/

theorem round_of_no_tasks {x : Session} (h : x.tasks = []) : x.round = x := by
  obtain ⟨site, scene, contexts, tasks⟩ := x
  simp only at h
  subst h
  rfl

/-- **A SESSION SETTLES IN ONE ROUND** if a second one leaves it as it is. -/
theorem settle_eq_round {x : Session} (h : x.round.round = x.round) : x.settle = x.round := by
  unfold settle
  simp only [settleWithin]
  split
  next => rfl
  next hlog =>
    cases ht : x.tasks with
    | nil => simp [round_of_no_tasks ht] at hlog
    | cons t rest =>
        -- two rounds at least are allowed, and the second one shows nothing
        rw [show 2 * (t :: rest).length = (2 * rest.length + 1) + 1 from by
          simp only [List.length_cons]
          omega]
        simp only [settleWithin, h, if_true]

/-- One more move of the clock, and what it shows. -/
theorem step_advance (x : Session) (d : Duration) :
    x.step (.advance d 1)
      = ((({ x with scene := { x.scene with log := [] } } : Session).tick d.wholeMillis).settle,
        .nothing,
        (({ x with scene := { x.scene with log := [] } } : Session).tick
          d.wholeMillis).settle.scene.log) := by
  simp only [step, apply, tickTimes]

end Admission.Session

/-
  Admission.Proofs.Session.Driven — sessions that commands drive.

  A command is carried out, and then the tasks settle: round after round, every task is polled once,
  in the order of creation.  A round is a run, and so is all that a command does.  So whatever is proved
  of all runs holds of every session that commands lead to.

  Main results:
    * `exists_run_settle` — settling is a run of polls;
    * `reaches_apply` — what a command does is a run;
    * `Sound.exists_run_driven` — **the session that commands lead to is one that a run leads to**, but
      for the events of earlier commands, which are forgotten;
    * `Sound.driven` — so it is sound.
-/
import Admission.Proofs.Session.Recast
import Admission.Proofs.Session.Sound

namespace Admission.Session

/-! ## §1. Rounds. -/

/-- Tasks that are polled in order. -/
theorem run_polls (rest before : List Task) (x : Session) (h : x.tasks = before ++ rest) :
    x.run ((List.range' before.length rest.length).map .poll)
      = { x with
          tasks := before ++ (pollAll rest x.scene).1
          scene := (pollAll rest x.scene).2 } := by
  induction rest generalizing before x with
  | nil =>
      show x = { x with tasks := before ++ [], scene := x.scene }
      rw [← h]
  | cons t rest ih =>
      -- the head is polled next, and then it is one of those before
      have ht : x.tasks[before.length]? = some t := by
        rw [h, List.getElem?_append_right (Nat.le_refl _), Nat.sub_self]
        rfl
      have hset : x.tasks.set before.length (t.poll x.scene).1
          = (before ++ [(t.poll x.scene).1]) ++ rest := by
        rw [h, List.set_append_right _ _ (Nat.le_refl _), Nat.sub_self, List.append_assoc]
        rfl
      rw [List.length_cons, List.range'_succ, List.map_cons, run_cons,
        show x.move (.poll before.length) = _ from onTask_of_some ht Task.poll]
      have hrest := ih (before ++ [(t.poll x.scene).1])
        { x with
          tasks := x.tasks.set before.length (t.poll x.scene).1
          scene := (t.poll x.scene).2 } hset
      rw [List.length_append, List.length_singleton] at hrest
      rw [hrest, List.append_assoc]
      rfl

/-- **A ROUND IS A RUN.** -/
theorem round_eq_run (x : Session) :
    x.round = x.run ((List.range' 0 x.tasks.length).map .poll) := by
  rw [show 0 = ([] : List Task).length from rfl, run_polls x.tasks [] x rfl]
  rfl

theorem exists_run_settleWithin (n : Nat) (x : Session) :
    ∃ ks : List Nat, settleWithin n x = x.run (ks.map .poll) := by
  induction n generalizing x with
  | zero => exact ⟨[], rfl⟩
  | succ n ih =>
      unfold settleWithin
      simp only
      split
      · exact ⟨_, round_eq_run x⟩
      · obtain ⟨ks, hks⟩ := ih x.round
        refine ⟨List.range' 0 x.tasks.length ++ ks, ?_⟩
        rw [List.map_append, run_append, ← round_eq_run, hks]

/-- **SETTLING IS A RUN OF POLLS.** -/
theorem exists_run_settle (x : Session) :
    ∃ ks : List Nat, x.settle = x.run (ks.map .poll) :=
  exists_run_settleWithin _ x

/-! ## §2. Commands. -/

/-- **`y` IS REACHED FROM `x`** by a run. -/
def Reaches (x y : Session) : Prop := ∃ ms, y = x.run ms

namespace Reaches

variable {x y z : Session}

theorem refl (x : Session) : Reaches x x := ⟨[], rfl⟩

theorem trans (h : Reaches x y) (h' : Reaches y z) : Reaches x z := by
  obtain ⟨ms, rfl⟩ := h
  obtain ⟨ms', rfl⟩ := h'
  exact ⟨ms ++ ms', (run_append x ms ms').symm⟩

theorem of_move (m : Move) : Reaches x (x.move m) := ⟨[m], rfl⟩

end Reaches

theorem reaches_settle (x : Session) : Reaches x x.settle := by
  obtain ⟨ks, hks⟩ := exists_run_settle x
  exact ⟨_, hks⟩

theorem reaches_tick (x : Session) (ms : Nat) : Reaches x (x.tick ms) := .of_move (.advance ms)

theorem reaches_tickTimes (ms : Nat) : ∀ (n : Nat) (x : Session), Reaches x (tickTimes ms n x)
  | 0, x => .refl x
  | 1, x => reaches_tick x ms
  | n + 2, x =>
      ((reaches_tick x ms).trans (reaches_settle _)).trans (reaches_tickTimes ms (n + 1) _)

/-- A command that neither moves the clock nor is made of others. -/
theorem reaches_still (x : Session) {c : Command} (hc : c.isStill = true) :
    Reaches x (x.apply c).1 := by
  have hmove : x.move (.tell c) = (x.apply c).1 := if_pos hc
  exact hmove ▸ .of_move (.tell c)

mutual

/-- **WHAT A COMMAND DOES IS A RUN.** -/
theorem reaches_apply : ∀ (c : Command) (x : Session), Reaches x (x.apply c).1
  | .batch commands, x => by
      simp only [apply]
      exact reaches_applyAll commands x
  | .advance d times, x => by
      simp only [apply]
      exact reaches_tickTimes d.wholeMillis times x
  | .context .., x | .cancel .., x | .watch .., x | .acquire .., x | .handle .., x
  | .layer .., x | .http .., x | .finish .., x | .release .., x | .drop .., x | .report .., x
  | .metrics, x => reaches_still x rfl

theorem reaches_applyAll : ∀ (cs : List Command) (x : Session), Reaches x (x.applyAll cs).1
  | [], x => by
      simp only [applyAll]
      exact .refl x
  | c :: rest, x => by
      simp only [applyAll]
      exact (reaches_apply c x).trans (reaches_applyAll rest _)

end

/-! ## §3. Sessions that commands drive. -/

/-- The session in which no event was shown yet. -/
def quiet (x : Session) : Session := { x with scene := { x.scene with log := [] } }

/-- The session in which other events were shown before. -/
def after (x : Session) (past : List Event) : Session :=
  { x with scene := { x.scene with log := past ++ x.scene.log } }

theorem Sound.quiet {x : Session} (h : x.Sound) : x.quiet.Sound :=
  h.congr rfl rfl fun _ hp => hp

theorem quiet_after (x : Session) : x.quiet.after x.scene.log = x := by
  show { x with scene := { x.scene with log := x.scene.log ++ [] } } = x
  rw [List.append_nil]

theorem after_after (x : Session) (past past' : List Event) :
    (x.after past).after past' = x.after (past' ++ past) := by
  show { x with scene := { x.scene with log := past' ++ (past ++ x.scene.log) } }
    = { x with scene := { x.scene with log := past' ++ past ++ x.scene.log } }
  rw [List.append_assoc]

/-- What was shown before makes no difference to a run. -/
theorem Sound.run_after {x : Session} (h : x.Sound) (past : List Event) (ms : List Move) :
    (x.after past).run ms = (x.run ms).after past := by
  have hrun : (x.recast x.scene.policy past).run ms = (x.run ms).recast x.scene.policy past := by
    refine run_recast ms fun before after _ t _ c _ guards context s0 reason _ => ?_
    rw [(h.onward_run before).policy]
  rw [← (h.onward_run ms).policy] at hrun
  rw [← show (x.run ms).recast (x.run ms).scene.policy past = (x.run ms).after past from rfl, ← hrun,
    (h.onward_run ms).policy]
  rfl

theorem reaches_step (x : Session) (c : Command) : Reaches x.quiet (x.step c).1 :=
  (reaches_apply c x.quiet).trans (reaches_settle _)

/-- One command after the other. -/
def driven (x : Session) (cs : List Command) : Session := cs.foldl (fun x c => (x.step c).1) x

theorem driven_concat (x : Session) (cs : List Command) (c : Command) :
    x.driven (cs ++ [c]) = ((x.driven cs).step c).1 := List.foldl_concat ..

/-- **WHAT COMMANDS LEAD TO** is what a run leads to: nothing but the events of earlier commands is
missing. -/
theorem Sound.exists_run_driven {x : Session} (h : x.Sound) (cs : List Command) :
    ∃ ms past, x.run ms = (x.driven cs).after past := by
  induction cs generalizing x with
  | nil => exact ⟨[], [], rfl⟩
  | cons c cs ih =>
      obtain ⟨ms, hms⟩ := reaches_step x c
      have hstep : (x.step c).1.Sound := hms ▸ h.quiet.run ms
      obtain ⟨ms', past, hms'⟩ := ih hstep
      -- the events of the commands before come back in front
      have hfirst : x.run ms = (x.step c).1.after x.scene.log := by
        have hpast := h.quiet.run_after x.scene.log ms
        rwa [quiet_after, ← hms] at hpast
      refine ⟨ms ++ ms', x.scene.log ++ past, ?_⟩
      rw [run_append, hfirst, hstep.run_after x.scene.log ms', hms', after_after]
      rfl

/-- The invariant holds of what commands lead to. -/
theorem Sound.driven {x : Session} (h : x.Sound) (cs : List Command) : (x.driven cs).Sound := by
  obtain ⟨ms, past, hms⟩ := h.exists_run_driven cs
  have hafter : ((x.driven cs).after past).Sound := hms ▸ h.run ms
  exact hafter.congr rfl rfl fun _ hp => hp

end Admission.Session

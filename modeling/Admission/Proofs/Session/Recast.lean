/-
  Admission.Proofs.Session.Recast — what a run does not look at.

  A session shows events, and never looks at those that it has shown.  It reads its policy in one
  place: where the gate has turned a request away, and the answer is rendered.  So a run takes the
  same course whatever was shown before, and under any policy that renders its refusals alike.

  Main results:
    * `move_recast` — one move under another policy and after other events;
    * `run_recast` — **a policy is asked about the refusals of a run, and about no others**.
-/
import Admission.Proofs.Session.Overlay

namespace Admission.Session

/-! ## §1. Scenes. -/

/-- The scene under another policy and after other events. -/
def Scene.recast (s : Scene) (p : Policy) (past : List Event) : Scene :=
  { s with policy := p, log := past ++ s.log }

/-- What a poll comes to, under another policy and after other events. -/
def Task.recast (p : Policy) (past : List Event) (out : Task × Scene) : Task × Scene :=
  (out.1, out.2.recast p past)

/-- The session under another policy and after other events. -/
def recast (x : Session) (p : Policy) (past : List Event) : Session :=
  { x with scene := x.scene.recast p past }

/-- No task reads the policy, but for what it renders, and none reads the log. -/
theorem overlay_recast (p : Policy) (past : List Event) : Overlay fun s => s.recast p past := by
  constructor
  case emit =>
    intro s e
    show { s with policy := p, log := past ++ s.log ++ [e] }
      = { s with policy := p, log := past ++ (s.log ++ [e]) }
    rw [List.append_assoc]
  all_goals exact fun _ => by intros; rfl

/-! ## §2. Polls. -/

section Polls

variable {t : Task} {c : Call} {s s0 : Scene} {guards : List Guard} {context : Option Context}
  {v : Verdict} {todo : List Action} (p : Policy) (past : List Event)

theorem Asks.recast (h : Asks t c s guards context s0 v) :
    Asks t c (s.recast p past) guards context (s0.recast p past) v := by
  cases h with
  | enters hf ha hn hg => exact .enters hf ha hn hg
  | resumes hp hd hg => exact .resumes hp hd hg

theorem Fires.recast (h : Fires t c s s0) :
    Fires t c (s.recast p past) (s0.recast p past) := by
  cases h with
  | atOnce hf ha hy => exact .atOnce hf ha hy
  | @parked _ _ g hp hd => exact (overlay_recast p past).abandon _ t.key ▸ .parked hp hd
  | running hp hd => exact .running hp hd

theorem Acts.recast (h : Acts t c s guards todo s0) :
    Acts t c (s.recast p past) guards todo (s0.recast p past) := by
  cases h with
  | begins hask hr => exact .begins (hask.recast p past) hr
  | goesOn hp hd => exact .goesOn hp hd

/-- A poll of a throttled request, where the policies render its refusal alike. -/
theorem poll_call_recast (hc : t.job = .call c)
    (h : ∀ guards context s0 reason, Asks t c s guards context s0 (.rejected reason) →
      p.reject reason = s.policy.reject reason) :
    t.poll (s.recast p past) = Task.recast p past (t.poll s) := by
  -- the policy is looked at after a verdict of the gate, and nowhere else
  have hasks : ∀ {guards context s0 v}, Asks t c s guards context s0 v →
      t.poll (s.recast p past) = Task.recast p past (t.poll s) := by
    intro guards context s0 v hask
    have hpolicy : s0.policy = s.policy := by
      obtain ⟨gate, tokens, rfl⟩ := hask.exists_eq
      rfl
    rw [(hask.recast p past).poll_eq hc, hask.poll_eq hc]
    refine (overlay_recast p past).settleVerdict t c guards context s0 v ?_
    rintro reason rfl
    show p.reject reason = _
    rw [hpolicy]
    exact h guards context s0 reason hask
  have hturn := turn_poll hc s
  generalize hout : t.poll s = out at hturn
  cases hturn with
  | idle hi =>
      rcases hi with hi | ⟨next, hi⟩
      · rw [poll_of_finished hi]
        rfl
      · unfold Task.poll
        rw [hc, hi]
        rfl
  | late hfire =>
      rw [(hfire.recast p past).poll_eq hc]
      exact (overlay_recast p past).missDeadline t c _
  | parks hask => exact hout ▸ hasks hask
  | refused hask => exact hout ▸ hasks hask
  | keeps hask => exact hout ▸ hasks hask
  | acts hact =>
      rw [(hact.recast p past).poll_eq hc]
      exact (overlay_recast p past).proceed t c _ _ _

end Polls

/-! ## §3. Runs. -/

/-- The policies render alike every refusal that the next poll of any task can come to. -/
def Agrees (p : Policy) (x : Session) : Prop :=
  ∀ t ∈ x.tasks, ∀ c, t.job = .call c → ∀ guards context s0 reason,
    Asks t c x.scene guards context s0 (.rejected reason) →
      p.reject reason = x.scene.policy.reject reason

section Moves

variable {p : Policy} {past : List Event} {x : Session}

theorem onTask_recast {f : Task → Scene → Task × Scene} {k : Nat}
    (h : ∀ t, x.tasks[k]? = some t → f t (x.scene.recast p past) = Task.recast p past (f t x.scene)) :
    (x.recast p past).onTask k f = (x.onTask k f).recast p past :=
  onTask_onScene (·.recast p past) id (·.recast p past) rfl h

/-- No command looks at the policy. -/
theorem apply_recast (p : Policy) (past : List Event) (x : Session) {c : Command} (hc : c.isStill = true) :
    ((x.recast p past).apply c).1 = (x.apply c).1.recast p past := by
  cases c with
  | context | acquire | handle | layer | http | finish | report =>
      simp only [apply]
      rfl
  | cancel context | watch _ context =>
      simp only [apply]
      rw [show (x.recast p past).contexts = x.contexts from rfl]
      cases x.contexts.lookup context <;> rfl
  | release name =>
      simp only [apply]
      exact (overlay_recast p past).releaseKept x name
  | drop name =>
      simp only [apply]
      exact (overlay_recast p past).dropNamed x name
  | metrics =>
      simp only [apply]
      rw [show (x.recast p past).scene.metrics = x.scene.metrics from rfl]
      cases x.scene.metrics <;> rfl
  | advance | batch => cases hc

/-- One move under another policy. -/
theorem move_recast (h : Agrees p x) (m : Move) :
    (x.recast p past).move m = (x.move m).recast p past := by
  cases m with
  | poll k =>
      refine onTask_recast fun t ht => ?_
      rcases call_or_not t with ⟨c, hc⟩ | hj
      · exact poll_call_recast p past hc (h t (List.mem_of_getElem? ht) c hc)
      · exact (overlay_recast p past).poll_aside hj x.scene fun _ _ _ => rfl
  | drop k => exact onTask_recast fun t _ => (overlay_recast p past).abort t x.scene
  | tell c =>
      unfold move
      simp only
      split
      next hc => exact apply_recast p past x hc
      next => rfl
  | advance ms => rfl

end Moves

/-- **A POLICY IS ASKED ABOUT THE REFUSALS OF A RUN AND NO OTHERS.** -/
theorem run_recast {p : Policy} {past : List Event} {x : Session} (ms : List Move)
    (h : ∀ before after, ms = before ++ after → Agrees p (x.run before)) :
    (x.recast p past).run ms = (x.run ms).recast p past := by
  induction ms using List.reverseRecOn with
  | nil => rfl
  | append_singleton ms m ih =>
      rw [run_concat, run_concat, ih, move_recast (h ms [m] rfl) m]
      intro before after he
      exact h before (after ++ [m]) (by rw [he, List.append_assoc])

end Admission.Session

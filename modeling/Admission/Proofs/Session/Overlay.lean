/-
  Admission.Proofs.Session.Overlay — what is laid over a scene, and comes through.

  A scene has parts that its tasks write and do not read, such as its log.  A change of such parts can
  be made before a task acts or after it, and it comes to the same.  An OVERLAY is a change of this
  kind: it leaves the clock, the gate, the permits and the kept tickets as they are, and it commutes
  with each of the ways in which a scene is written.

  Main results:
    * `perform_comm` — **a handler reads the clock and the permits**, and nothing else;
    * `Overlay.settleVerdict`, `Overlay.proceed` — what follows from a verdict, and a handler;
    * `Overlay.poll_aside`, `Overlay.abort` — the polls of other tasks, and the end of any task;
    * `Overlay.dropNamed`, `Overlay.releaseKept` — the commands that give something back;
    * `onTask_onScene` — from what is done with a task to what a session comes to.
-/
import Admission.Proofs.Session.Turn

namespace Admission.Session

/-! ## §1. Handlers. -/

/-- **A HANDLER READS THE CLOCK AND THE PERMITS**, and writes permits and events: whatever change of
the scene leaves the two as they are, and commutes with these, commutes with a handler. -/
theorem perform_comm {f : Scene → Scene} (hnow : ∀ s, (f s).now = s.now)
    (hpermits : ∀ s, (f s).permits = s.permits) (hemit : ∀ s e, (f s).emit e = f (s.emit e))
    (hput : ∀ s permits, { f s with permits } = f { s with permits })
    (name : String) (todo : List Action) (s : Scene) :
    (f s).perform name todo = Prod.map id f (s.perform name todo) := by
  have htake : ∀ s : Scene, (f s).takePermit? name = (s.takePermit? name).map f := by
    intro s
    unfold Scene.takePermit?
    rw [hpermits]
    cases s.permits.lookup name with
    | none => rfl
    | some n =>
        cases n with
        | zero => rfl
        | succ n => exact congrArg some (hput s _)
  -- along the actions, up to the first at which the handler stops
  induction todo generalizing s with
  | nil => rfl
  | cons a rest ih =>
      cases a with
      | announce =>
          unfold Scene.perform
          rw [hemit]
          exact ih (s.emit (.started name))
      | awaitPermit =>
          unfold Scene.perform
          rw [htake]
          cases s.takePermit? name with
          | none => rfl
          | some s' => exact ih s'
      | sleep d =>
          unfold Scene.perform
          rw [hnow]
          split
          · exact ih s
          · rfl
      | sleepUntil u =>
          unfold Scene.perform
          rw [hnow]
          split
          · exact ih s
          · rfl

/-! ## §2. Overlays. -/

/-- A change of a scene that the tasks do not read.  The tokens, the figures and the policy are not
spoken of: it may change what they are. -/
structure Overlay (f : Scene → Scene) : Prop where
  now : ∀ s, (f s).now = s.now
  gate : ∀ s, (f s).gate = s.gate
  permits : ∀ s, (f s).permits = s.permits
  kept : ∀ s, (f s).kept = s.kept
  metrics : ∀ s, (f s).metrics = s.metrics
  emit : ∀ s e, (f s).emit e = f (s.emit e)
  record : ∀ s g, (f s).record g = f (s.record g)
  putGate : ∀ s gate, { f s with gate } = f { s with gate }
  putPermits : ∀ s permits, { f s with permits } = f { s with permits }
  putKept : ∀ s kept, { f s with kept } = f { s with kept }

/-- The session with a change of its scene. -/
def onScene (x : Session) (f : Scene → Scene) : Session := { x with scene := f x.scene }

namespace Overlay

variable {f : Scene → Scene} (hf : Overlay f)

include hf

/-! ## §3. Scenes. -/

theorem discardTicket (s : Scene) (key : Nat) :
    (f s).discardTicket key = f (s.discardTicket key) := by
  unfold Scene.discardTicket
  rw [hf.gate, hf.putGate]

theorem keepTicket (s : Scene) (name : String) (key : Nat) :
    (f s).keepTicket name key = f (s.keepTicket name key) := by
  unfold Scene.keepTicket
  rw [hf.kept]
  cases s.kept.lookup name with
  | none =>
      simp only
      rw [hf.kept, hf.putKept]
  | some old =>
      simp only
      rw [hf.discardTicket, hf.kept, hf.putKept]

theorem abandon (s : Scene) (key : Nat) : (f s).abandon key = f (s.abandon key) := by
  unfold Scene.abandon
  rw [hf.gate, hf.putGate, hf.record]
  split <;> rfl

/-- A handler does not look at what is changed. -/
theorem perform (name : String) (todo : List Action) (s : Scene) :
    (f s).perform name todo = Prod.map id f (s.perform name todo) :=
  perform_comm hf.now hf.permits hf.emit hf.putPermits name todo s

/-! ## §4. Tasks. -/

/-- A task after which something is shown. -/
theorem pair_emit (t : Task) (s : Scene) (e : Event) :
    (t, (f s).emit e) = Prod.map id f (t, s.emit e) :=
  congrArg (Prod.mk t) (hf.emit s e)

theorem missDeadline (t : Task) (c : Call) (s : Scene) :
    t.missDeadline c (f s) = Prod.map id f (t.missDeadline c s) := by
  unfold Task.missDeadline
  rw [hf.record, hf.pair_emit]

theorem proceed (t : Task) (c : Call) (guards : List Guard) (todo : List Action) (s : Scene) :
    t.proceed c guards todo (f s) = Prod.map id f (t.proceed c guards todo s) := by
  unfold Task.proceed
  rw [hf.perform]
  generalize s.perform t.name todo = out
  obtain ⟨left, s1⟩ := out
  cases left with
  | nil =>
      show (t.finish, ((f s1).discardTicket t.key).emit _) = _
      rw [hf.discardTicket]
      exact hf.pair_emit t.finish (s1.discardTicket t.key) _
  | cons a rest => rfl

/-- What follows from a verdict, where a refusal is rendered alike. -/
theorem settleVerdict (t : Task) (c : Call) (guards : List Guard) (context : Option Context)
    (s : Scene) (v : Verdict) (h : ∀ reason, v = .rejected reason →
      (f s).policy.reject reason = s.policy.reject reason) :
    t.settleVerdict c guards context (f s) v
      = Prod.map id f (t.settleVerdict c guards context s v) := by
  cases v with
  | parked => rfl
  | rejected reason =>
      -- the one verdict that the policy renders
      have hevent : Task.refusalEvent t.name c.reply (f s).policy reason
          = Task.refusalEvent t.name c.reply s.policy reason := by
        unfold Task.refusalEvent
        rw [h reason rfl]
      unfold Task.settleVerdict
      simp only
      rw [hevent, hf.record]
      exact hf.pair_emit t.finish _ _
  | admitted =>
      cases hr : c.reply with
      | ticket =>
          unfold Task.settleVerdict
          simp only [hr]
          rw [hf.record, hf.keepTicket]
          exact hf.pair_emit t.finish _ _
      | value | http =>
          have hne : c.reply ≠ .ticket := by
            rw [hr]
            nofun
          rw [settleVerdict_admitted t hne, settleVerdict_admitted t hne, hf.record, hf.proceed]

theorem reportFigures (s : Scene) : Task.reportFigures (f s) = f (Task.reportFigures s) := by
  unfold Task.reportFigures
  rw [hf.gate, hf.record]

/-- The poll of a task that does not concern the gate, where the end of the context that it waits for
is seen alike. -/
theorem poll_aside {t : Task} (hj : ∀ c, t.job ≠ .call c) (s : Scene)
    (h : ∀ c, t.job = .watch c → t.stage ≠ .finished →
      c.isDone (f s).tokens s.now = c.isDone s.tokens s.now) :
    t.poll (f s) = Prod.map id f (t.poll s) := by
  by_cases hn : t.stage = .finished
  · rw [poll_of_finished hn, poll_of_finished hn]
    rfl
  · cases hjob : t.job with
    | call c => exact absurd hjob (hj c)
    | free r =>
        rw [poll_free hjob hn, poll_free hjob hn, hf.gate, hf.metrics]
        exact hf.pair_emit t.finish s _
    | watch c =>
        rw [poll_watch hjob hn, poll_watch hjob hn, hf.now, h c hjob hn]
        split
        · exact hf.pair_emit t.finish s _
        · rfl
    | report interval =>
        rcases reporting_or_not t with ⟨next, hr⟩ | hr
        · rw [poll_report hjob hr, poll_report hjob hr, hf.now, hf.reportFigures]
          split <;> rfl
        · rw [poll_report_first hjob hn hr, poll_report_first hjob hn hr, hf.now, hf.reportFigures]
          split <;> rfl

theorem abort (t : Task) (s : Scene) : t.abort (f s) = Prod.map id f (t.abort s) := by
  unfold Task.abort
  rw [hf.abandon, hf.discardTicket]
  split <;> rfl

/-! ## §5. Commands. -/

theorem abortFirst (name : String) (ts : List Task) (s : Scene) :
    Session.abortFirst name ts (f s)
      = (Session.abortFirst name ts s).map (Prod.map id f) := by
  induction ts with
  | nil => rfl
  | cons t rest ih =>
      unfold Session.abortFirst
      rw [hf.abort, ih]
      split
      · rfl
      · cases Session.abortFirst name rest s <;> rfl

theorem dropNamed (x : Session) (name : String) :
    ((x.onScene f).dropNamed name).1 = (x.dropNamed name).1.onScene f := by
  unfold Session.dropNamed
  rw [show (x.onScene f).scene.kept = x.scene.kept from hf.kept x.scene]
  cases x.scene.kept.lookup name with
  | some key =>
      have hscene : (x.onScene f).scene.discardTicket key = f (x.scene.discardTicket key) :=
        hf.discardTicket x.scene key
      simp only [hscene, hf.kept, hf.putKept]
      rfl
  | none =>
      simp only
      rw [show Session.abortFirst name (x.onScene f).tasks (x.onScene f).scene
        = (Session.abortFirst name x.tasks x.scene).map (Prod.map id f) from
          hf.abortFirst name x.tasks x.scene]
      cases Session.abortFirst name x.tasks x.scene <;> rfl

theorem releaseKept (x : Session) (name : String) :
    ((x.onScene f).releaseKept name).1 = (x.releaseKept name).1.onScene f := by
  unfold Session.releaseKept
  rw [show (x.onScene f).scene.kept = x.scene.kept from hf.kept x.scene,
    show (x.onScene f).scene.gate = x.scene.gate from hf.gate x.scene]
  cases x.scene.kept.lookup name with
  | none => rfl
  | some key =>
      cases hticket : x.scene.gate.ticket? key with
      | none =>
          simp only [hticket]
      | some ticket =>
          simp only [hticket]
          exact congrArg (fun scene => { x with scene }) (hf.putGate x.scene _)

end Overlay

/-! ## §6. What is done with a task. -/

/-- If what is done with a task comes to the same under changes of the scene, so does what is done
with the session. -/
theorem onTask_onScene {x : Session} {k : Nat} {f : Task → Scene → Task × Scene}
    (before after after' : Scene → Scene) (hidle : after (before x.scene) = after' x.scene)
    (h : ∀ t, x.tasks[k]? = some t →
      Prod.map id after (f t (before x.scene)) = Prod.map id after' (f t x.scene)) :
    ((x.onScene before).onTask k f).onScene after = (x.onTask k f).onScene after' := by
  cases hk : x.tasks[k]? with
  | none =>
      rw [onTask_of_none hk, onTask_of_none (show (x.onScene before).tasks[k]? = none from hk)]
      exact congrArg (fun scene => { x with scene }) hidle
  | some t =>
      rw [onTask_of_some hk, onTask_of_some (show (x.onScene before).tasks[k]? = some t from hk)]
      obtain ⟨htask, hscene⟩ := Prod.ext_iff.mp (h t hk)
      show Session.mk x.site (after (f t (before x.scene)).2) x.contexts
        (x.tasks.set k (f t (before x.scene)).1) = _
      rw [show (f t (before x.scene)).1 = (f t x.scene).1 from htask,
        show after (f t (before x.scene)).2 = after' (f t x.scene).2 from hscene]
      rfl

end Admission.Session

/-
  Admission.Proofs.Session.Advice — how often the advice of a policy is asked, and for whom.

  The advice of a policy is a function that the owner of a gate supplies.  It may have effects of its
  own, so it matters how often it is called, with which flag, and on whose behalf.  Here it is a
  COUNSEL: a function that answers from its books and leaves them changed.  A session is run once more
  with a counsel in place of the advice, along the same text; where the counsel keeps no books, that
  run is the run of the session.

  Main results:
    * `runBy_counselOf` — a counsel without books is the advice of the policy;
    * `runBy_eq` — **the course of a run does not hang on the counsel, which is asked once for every
      refusal that is returned, in their order**;
    * `isAmbient_iff` — the flag says whether the context had ended;
    * `Sound.dismissed_run`, `Sound.returnedTo_of_dropped` — nobody is refused twice, or refused and
      admitted, or refused and dropped.
-/
import Admission.Proofs.Session.Closing
import Admission.Proofs.Session.Recast
import Admission.Proofs.Session.Waiting

namespace Admission.Session

/-! ## §1. Advice that keeps books. -/

/-- Advice that is asked with a flag, and answers from its books. -/
abbrev Counsel (σ : Type) := Bool → σ → Duration × σ

section Definitions

variable {σ : Type}

/-- The refusal for a reason; the counsel is asked as the refusal is made. -/
def rejectBy (counsel : Option (Counsel σ)) (status : Status) (reason : Reason) (books : σ) :
    Rejection × σ :=
  match counsel with
  | none => (⟨reason, status, reason.message, none⟩, books)
  | some ask =>
    let (d, books) := ask reason.isAmbient books
    (⟨reason, status, reason.message, some d⟩, books)

/-- A refusal, as the observer sees it. -/
def refusalEventBy (counsel : Option (Counsel σ)) (name : String) (reply : Reply) (status : Status)
    (reason : Reason) (books : σ) : Event × σ :=
  match reply with
  | .ticket => (.rejected name reason, books)
  | .value =>
    let (r, books) := rejectBy counsel status reason books
    (.refused name r, books)
  | .http frame =>
    let (r, books) := rejectBy counsel status reason books
    (.response name (frame.finish (.ofRejection r)), books)

/-- What follows from the gate's verdict. -/
def settleVerdictBy (counsel : Option (Counsel σ)) (t : Task) (c : Call) (guards : List Guard)
    (context : Option Context) (s : Scene) (books : σ) : Verdict → (Task × Scene) × σ
  | .rejected reason =>
    let (e, books) := refusalEventBy counsel t.name c.reply s.policy.status reason books
    ((t.finish, (s.record (·.recordRejected reason)).emit e), books)
  | v => (t.settleVerdict c guards context s v, books)

/-- The first poll of a throttled request. -/
def enterBy (counsel : Option (Counsel σ)) (t : Task) (c : Call) (s : Scene) (books : σ) :
    (Task × Scene) × σ :=
  let armed := Task.arm s.now c.timeouts c.ambient s.tokens
  let s := { s with tokens := armed.tokens }
  if armed.fired then (t.missDeadline c s, books)
  else
    let (gate, verdict) := s.gate.enter t.key s.now (Task.isOver armed.context s)
    settleVerdictBy counsel t c armed.guards armed.context { s with gate } books verdict

/-- A later poll of a throttled request that waits. -/
def resumeBy (counsel : Option (Counsel σ)) (t : Task) (c : Call) (guards : List Guard)
    (context : Option Context) (s : Scene) (books : σ) : (Task × Scene) × σ :=
  match Task.dueGuard? s.now guards with
  | some g =>
    (t.missDeadline c ({ s with tokens := s.tokens.cancel g.token }.abandon t.key), books)
  | none =>
    let (gate, verdict) := s.gate.resume t.key s.now (Task.isOver context s)
    settleVerdictBy counsel t c guards context { s with gate } books verdict

/-- One poll of a task.  Nobody else has to do with the policy. -/
def pollBy (counsel : Option (Counsel σ)) (t : Task) (s : Scene) (books : σ) : (Task × Scene) × σ :=
  match t.job, t.stage with
  | .call c, .fresh => enterBy counsel t c s books
  | .call c, .parked guards context => resumeBy counsel t c guards context s books
  | _, _ => (t.poll s, books)

/-- One move. -/
def moveBy (counsel : Option (Counsel σ)) (p : Session × σ) : Move → Session × σ
  | .poll k =>
    match p.1.tasks[k]? with
    | some t =>
      let (out, books) := pollBy counsel t p.1.scene p.2
      ({ p.1 with tasks := p.1.tasks.set k out.1, scene := out.2 }, books)
    | none => p
  | m => (p.1.move m, p.2)

/-- One move after the other. -/
def runBy (counsel : Option (Counsel σ)) (p : Session × σ) (ms : List Move) : Session × σ :=
  ms.foldl (moveBy counsel) p

theorem runBy_concat (counsel : Option (Counsel σ)) (p : Session × σ) (ms : List Move) (m : Move) :
    runBy counsel p (ms ++ [m]) = moveBy counsel (runBy counsel p ms) m := by
  unfold runBy
  rw [List.foldl_append]
  rfl

end Definitions

/-- A refusal that is returned to a caller: to whom, in which form, and why. -/
structure Returned where
  name : String
  reply : Reply
  reason : Reason
deriving DecidableEq

namespace Returned

/-- The context of the request had ended. -/
def flag (e : Returned) : Bool := e.reason.isAmbient

/-- The refusal, as the observer sees it. -/
def event (e : Returned) (r : Rejection) : Event :=
  match e.reply with
  | .http frame => .response e.name (frame.finish (.ofRejection r))
  | _ => .refused e.name r

end Returned

/-- The refusal that a poll of the task returns.  Who asks for the ticket itself gets the reason alone,
and no refusal is made of it. -/
def Task.returned? (t : Task) (s : Scene) : Option Returned :=
  match t.job with
  | .call c =>
    match t.station c s with
    | .asks (.rejected reason) =>
      if c.reply = .ticket then none else some ⟨t.name, c.reply, reason⟩
    | _ => none
  | _ => none

/-- The refusal that a move returns. -/
def returned? (x : Session) : Move → Option Returned
  | .poll k => x.tasks[k]?.bind fun t => t.returned? x.scene
  | _ => none

/-- All refusals that a run returns, oldest first. -/
def returnedBy : Session → List Move → List Returned := trail fun x m => (x.returned? m).toList

/-! ## §2. One poll. -/

section Polls

variable {t : Task} {c : Call} {s s0 : Scene} {guards : List Guard} {context : Option Context}
  {v : Verdict} {e : Returned}

theorem refusalEvent_of_ne {reply : Reply} (h : reply ≠ .ticket) (name : String) (policy : Policy)
    (reason : Reason) : Task.refusalEvent name reply policy reason
      = Returned.event ⟨name, reply, reason⟩ (policy.reject reason) := by
  cases reply with
  | ticket => exact absurd rfl h
  | value | http => rfl

section Counsel

variable {σ : Type} (counsel : Option (Counsel σ)) (books : σ)

theorem refusalEventBy_of_ne {reply : Reply} (h : reply ≠ .ticket) (name : String)
    (status : Status) (reason : Reason) : refusalEventBy counsel name reply status reason books
      = (Returned.event ⟨name, reply, reason⟩ (rejectBy counsel status reason books).1,
        (rejectBy counsel status reason books).2) := by
  cases reply with
  | ticket => exact absurd rfl h
  | value | http => rfl

/-- A request that asks at the gate. -/
theorem Asks.pollBy_eq (h : Asks t c s guards context s0 v) (hc : t.job = .call c) :
    pollBy counsel t s books = settleVerdictBy counsel t c guards context s0 books v := by
  cases h with
  | enters hf ha hn hg =>
      have hpoll : pollBy counsel t s books = enterBy counsel t c s books := by
        simp only [pollBy, hc, hf]
      rw [hpoll]
      unfold enterBy
      simp only [ha, hn, hg, Bool.false_eq_true, if_false]
  | resumes hp hd hg =>
      have hpoll : pollBy counsel t s books = resumeBy counsel t c guards context s books := by
        simp only [pollBy, hc, hp]
      rw [hpoll]
      unfold resumeBy
      simp only [hd, hg]

/-- A poll that does not come to the gate. -/
theorem pollBy_of_station (hc : t.job = .call c) (h : ∀ v, t.station c s ≠ .asks v) :
    pollBy counsel t s books = (t.poll s, books) := by
  unfold Task.station at h
  -- the gate is asked at the first poll and while the request waits, unless a guard fires before
  cases hst : t.stage with
  | fresh =>
      rw [hst] at h
      have hfired : (Task.arm s.now c.timeouts c.ambient s.tokens).fired = true := by
        by_contra hn
        simp only [hn] at h
        exact h _ rfl
      have hpoll := Fires.poll_eq (Fires.atOnce hst rfl hfired) hc
      rw [hpoll]
      simp only [pollBy, hc, hst, enterBy, hfired, if_true]
  | parked guards context =>
      rw [hst] at h
      cases hd : Task.dueGuard? s.now guards with
      | none =>
          simp only [hd, Option.isSome_none, Bool.false_eq_true, if_false] at h
          exact absurd rfl (h _)
      | some g =>
          rw [Fires.poll_eq (Fires.parked hst hd) hc]
          simp only [pollBy, hc, hst, resumeBy, hd]
  | running | reporting | finished => simp only [pollBy, hc, hst]

end Counsel

/-- **WHOSE POLL RETURNS A REFUSAL.** -/
theorem returned?_eq_some_iff : t.returned? s = some e ↔ ∃ c guards context s0,
    t.job = .call c ∧ Asks t c s guards context s0 (.rejected e.reason) ∧ c.reply ≠ .ticket
      ∧ e = ⟨t.name, c.reply, e.reason⟩ := by
  constructor
  · intro h
    unfold Task.returned? at h
    split at h
    next c hc =>
      split at h
      next reason hst =>
        split at h
        · cases h
        next hr =>
          cases h
          obtain ⟨guards, context, s0, hask⟩ := exists_asks_of_station hst
          exact ⟨c, guards, context, s0, hc, hask, hr, rfl⟩
      next => cases h
    next => cases h
  · rintro ⟨c, guards, context, s0, hc, hask, hr, he⟩
    unfold Task.returned?
    rw [hc]
    simp only [hask.station, if_neg hr]
    exact congrArg some he.symm

/-- A refusal is all that the poll shows which returns it, and the counsel is asked for it once. -/
theorem poll_of_returned (h : t.returned? s = some e) : ∃ s0 : Scene,
    s0.log = s.log ∧ t.poll s = (t.finish, s0.emit (e.event (s.policy.reject e.reason)))
      ∧ ∀ {σ : Type} (counsel : Option (Counsel σ)) (books : σ),
        pollBy counsel t s books
          = ((t.finish, s0.emit (e.event (rejectBy counsel s.policy.status e.reason books).1)),
            (rejectBy counsel s.policy.status e.reason books).2) := by
  obtain ⟨c, guards, context, s0, hc, hask, hr, he⟩ := returned?_eq_some_iff.mp h
  have hlog := hask.log_eq
  have hpolicy : s0.policy = s.policy := by
    obtain ⟨gate, tokens, rfl⟩ := hask.exists_eq
    rfl
  refine ⟨s0.record (·.recordRejected e.reason), hlog, ?_, fun counsel books => ?_⟩
  · rw [hask.poll_eq hc]
    unfold Task.settleVerdict
    simp only
    rw [refusalEvent_of_ne hr, hpolicy, ← he]
  · rw [hask.pollBy_eq counsel books hc]
    unfold settleVerdictBy
    simp only
    rw [refusalEventBy_of_ne counsel books hr, hpolicy, ← he]

/-- Otherwise nobody asks the counsel. -/
theorem pollBy_of_none (h : t.returned? s = none) {σ : Type} (counsel : Option (Counsel σ))
    (books : σ) : pollBy counsel t s books = (t.poll s, books) := by
  rcases call_or_not t with ⟨c, hc⟩ | hj
  · by_cases hst : ∃ v, t.station c s = .asks v
    · obtain ⟨v, hst⟩ := hst
      obtain ⟨guards, context, s0, hask⟩ := exists_asks_of_station hst
      rw [hask.pollBy_eq counsel books hc, hask.poll_eq hc]
      cases v with
      | admitted | parked => rfl
      | rejected reason =>
          -- a reason alone, for somebody who asked for the ticket itself
          have hr : c.reply = .ticket := by
            by_contra hne
            have hsome : t.returned? s = some ⟨t.name, c.reply, reason⟩ :=
              returned?_eq_some_iff.mpr ⟨c, guards, context, s0, hc, hask, hne, rfl⟩
            rw [h] at hsome
            cases hsome
          unfold settleVerdictBy Task.settleVerdict refusalEventBy Task.refusalEvent
          simp only [hr]
    · exact pollBy_of_station counsel books hc fun v hv => hst ⟨v, hv⟩
  · unfold pollBy
    split
    next c hc _ => exact absurd hc (hj c)
    next c _ _ hc _ => exact absurd hc (hj c)
    next => rfl

/-- **THE FLAG SAYS WHETHER THE CONTEXT HAD ENDED**, at the poll that returns the refusal. -/
theorem isAmbient_iff {reason : Reason} (h : Asks t c s guards context s0 (.rejected reason))
    (hp : Placed s.gate t) : reason.isAmbient = true ↔ Task.isOver context s0 = true := by
  cases h with
  | @enters a g _ hf ha hn hg =>
      have he := Gate.enter_entry s.gate (hp.notMem_waiters hf) s.now
        (Task.isOver a.context { s with tokens := a.tokens })
      rw [hg] at he
      show _ ↔ Task.isOver a.context { s with tokens := a.tokens } = true
      cases he with
      | ended hd => exact ⟨fun _ => hd, fun _ => rfl⟩
      | full hd | impatient hd =>
          rw [hd]
          exact ⟨nofun, nofun⟩
  | @resumes _ _ g _ hst hd hg =>
      obtain ⟨u, hu⟩ := exists_waiter_of_placed hp hst
      have hr := Gate.resume_resumption s.gate hu s.now (Task.isOver context s)
      rw [hg] at hr
      show _ ↔ Task.isOver context s = true
      cases hr with
      | ended hd => exact ⟨fun _ => hd, fun _ => rfl⟩
      | expired hd =>
          rw [hd]
          exact ⟨nofun, nofun⟩

end Polls

/-! ## §3. Runs. -/

/-- The session with another log. -/
def withLog (x : Session) (log : List Event) : Session := { x with scene := { x.scene with log } }

theorem agrees_self (x : Session) : Agrees x.scene.policy x := fun _ _ _ _ _ _ _ _ _ => rfl

/-- **A MOVE TAKES ITS COURSE** whatever was shown before. -/
theorem move_withLog (x : Session) (log : List Event) (m : Move) :
    (x.withLog log).move m = (x.move m).withLog (log ++ x.shown m) := by
  -- with any log, the session is the one without a log, after other events
  have hmove : ∀ past, (x.withLog past).move m
      = ((x.withLog []).move m).recast x.scene.policy past := by
    intro past
    have hpast : (x.withLog []).recast x.scene.policy past = x.withLog past := by
      show { x with scene := { x.scene with log := past ++ [] } } = _
      rw [List.append_nil]
      rfl
    rw [← hpast]
    exact move_recast (agrees_self (x.withLog [])) m
  have hself : x.move m = ((x.withLog []).move m).recast x.scene.policy x.scene.log :=
    hmove x.scene.log
  have hshown : x.shown m = ((x.withLog []).move m).scene.log :=
    shown_of_log (congrArg (·.scene.log) hself)
  rw [hmove, hself, hshown]
  rfl

/-- What a move shows is all that it adds to the log. -/
theorem log_move (x : Session) (m : Move) : (x.move m).scene.log = x.scene.log ++ x.shown m :=
  congrArg (·.scene.log) (move_withLog x x.scene.log m)

/-- What a run shows is all that it adds to the log. -/
theorem run_withLog (x : Session) (log : List Event) (ms : List Move) :
    (x.withLog log).run ms = (x.run ms).withLog (log ++ trail shown x ms) := by
  induction ms generalizing x log with
  | nil =>
      show x.withLog log = x.withLog (log ++ [])
      rw [List.append_nil]
  | cons m ms ih =>
      rw [run_cons, move_withLog, ih, List.append_assoc]
      rfl

theorem log_run (x : Session) (ms : List Move) :
    (x.run ms).scene.log = x.scene.log ++ trail shown x ms :=
  congrArg (·.scene.log) (run_withLog x x.scene.log ms)

/-- No move changes the policy. -/
theorem policy_move (x : Session) (m : Move) : (x.move m).scene.policy = x.scene.policy := by
  have hself : (x.recast x.scene.policy []).move m = (x.move m).recast x.scene.policy [] :=
    move_recast (agrees_self x) m
  exact congrArg (·.scene.policy) hself

theorem policy_run (x : Session) (ms : List Move) : (x.run ms).scene.policy = x.scene.policy := by
  induction ms generalizing x with
  | nil => rfl
  | cons m ms ih => exact (ih (x.move m)).trans (policy_move x m)

/-- A move that returns a refusal is the poll of the task that it is returned to. -/
theorem exists_of_returned {x : Session} {m : Move} {e : Returned} (h : x.returned? m = some e) :
    ∃ k t, m = .poll k ∧ x.tasks[k]? = some t ∧ t.returned? x.scene = some e := by
  cases m with
  | poll k =>
      obtain ⟨t, hk, ht⟩ := Option.bind_eq_some_iff.mp h
      exact ⟨k, t, rfl, hk, ht⟩
  | drop | tell | advance => cases h

/-- **A REFUSAL THAT IS RETURNED IS SHOWN**, and nothing else in that poll. -/
theorem shown_of_returned {x : Session} {m : Move} {e : Returned} (h : x.returned? m = some e) :
    x.shown m = [e.event (x.scene.policy.reject e.reason)] := by
  obtain ⟨k, t, rfl, hk, ht⟩ := exists_of_returned h
  obtain ⟨s0, hlog, hpoll, -⟩ := poll_of_returned ht
  refine shown_of_log ?_
  rw [scene_move_poll hk, hpoll]
  show s0.log ++ [_] = _
  rw [hlog]

section Counsel

variable {σ : Type}

/-- The books after the counsel was asked with a flag. -/
def ask (counsel : Option (Counsel σ)) (books : σ) (flag : Bool) : σ :=
  match counsel with
  | none => books
  | some f => (f flag books).2

/-- To make a refusal, the counsel is asked once. -/
theorem books_rejectBy (counsel : Option (Counsel σ)) (status : Status) (reason : Reason)
    (books : σ) : (rejectBy counsel status reason books).2 = ask counsel books reason.isAmbient := by
  cases counsel <;> rfl

section Moves

variable (counsel : Option (Counsel σ)) (x : Session) (log : List Event) (books : σ) {m : Move}

/-- **A MOVE THAT RETURNS A REFUSAL** asks the counsel for it. -/
theorem moveBy_of_returned {e : Returned} (h : x.returned? m = some e) :
    moveBy counsel (x.withLog log, books) m
      = ((x.move m).withLog
          (log ++ [e.event (rejectBy counsel x.scene.policy.status e.reason books).1]),
        (rejectBy counsel x.scene.policy.status e.reason books).2) := by
  obtain ⟨k, t, rfl, hk, ht⟩ := exists_of_returned h
  have hky : (x.withLog log).tasks[k]? = some t := hk
  have hmove := move_withLog x log (.poll k)
  obtain ⟨s0, hlog, hpoll, hby⟩ := poll_of_returned (s := (x.withLog log).scene) ht
  have hby := hby counsel books
  rw [show (x.withLog log).scene.policy = x.scene.policy from rfl] at hby
  generalize rejectBy counsel x.scene.policy.status e.reason books = out at hby ⊢
  rw [show (x.withLog log).move (.poll k) = (x.withLog log).onTask k Task.poll from rfl,
    onTask_of_some hky, hpoll] at hmove
  -- but for the event, the move is that of the session
  have hsame := congrArg (·.withLog (s0.log ++ [e.event out.1])) hmove
  have hstep : moveBy counsel (x.withLog log, books) (.poll k)
      = ((x.move (.poll k)).withLog (s0.log ++ [e.event out.1]), out.2) := by
    unfold moveBy
    simp only [hky, hby]
    exact congrArg (·, out.2) hsame
  rw [hstep, show s0.log = log from hlog]

/-- **ANY OTHER MOVE** leaves the books alone, and shows what it shows. -/
theorem moveBy_of_none (h : x.returned? m = none) :
    moveBy counsel (x.withLog log, books) m = ((x.move m).withLog (log ++ x.shown m), books) := by
  rw [← move_withLog]
  cases m with
  | poll k =>
      cases hk : x.tasks[k]? with
      | none =>
          have hidle : (x.withLog log).move (.poll k) = x.withLog log :=
            onTask_of_none (x := x.withLog log) hk Task.poll
          unfold moveBy
          simp only [show (x.withLog log).tasks[k]? = none from hk, hidle]
      | some t =>
          have ht : t.returned? x.scene = none := by
            simpa only [returned?, hk, Option.bind_some] using h
          have hpoll := pollBy_of_none (s := (x.withLog log).scene) ht counsel books
          unfold moveBy
          simp only [show (x.withLog log).tasks[k]? = some t from hk, hpoll]
          rw [show (x.withLog log).move (.poll k) = (x.withLog log).onTask k Task.poll from rfl,
            onTask_of_some (show (x.withLog log).tasks[k]? = some t from hk)]
  | drop | tell | advance => rfl

end Moves

/-- **THE COURSE OF A RUN DOES NOT HANG ON THE COUNSEL**, which is asked once for every refusal that
the run returns, in their order, with their flags. -/
theorem runBy_eq (counsel : Option (Counsel σ)) (x : Session) (books : σ) (ms : List Move) :
    ∃ log, runBy counsel (x, books) ms = ((x.run ms).withLog log,
      ((returnedBy x ms).map (·.flag)).foldl (ask counsel) books) := by
  induction ms using List.reverseRecOn with
  | nil => exact ⟨x.scene.log, rfl⟩
  | append_singleton ms m ih =>
      obtain ⟨log, hrun⟩ := ih
      have hreturned : returnedBy x (ms ++ [m]) = returnedBy x ms ++ ((x.run ms).returned? m).toList :=
        trail_concat _ x ms m
      rw [runBy_concat, hrun, run_concat, hreturned, List.map_append, List.foldl_append]
      cases h : (x.run ms).returned? m with
      | none => exact ⟨_, moveBy_of_none counsel (x.run ms) log _ h⟩
      | some e =>
          have hmove := moveBy_of_returned counsel (x.run ms) log
            (((returnedBy x ms).map (·.flag)).foldl (ask counsel) books) h
          rw [books_rejectBy] at hmove
          exact ⟨_, hmove⟩

/-- The advice of a policy as a counsel that keeps no books. -/
def counselOf (p : Policy) : Option (Counsel σ) :=
  p.retryAfter.map fun advice flag books => (advice flag, books)

theorem rejectBy_counselOf (p : Policy) (reason : Reason) (books : σ) :
    rejectBy (counselOf p) p.status reason books = (p.reject reason, books) := by
  unfold rejectBy counselOf Policy.reject
  cases p.retryAfter <;> rfl

/-- **A COUNSEL WITHOUT BOOKS IS ADVICE**: the run with it is the run. -/
theorem runBy_counselOf (x : Session) (books : σ) (ms : List Move) :
    runBy (counselOf x.scene.policy) (x, books) ms = (x.run ms, books) := by
  induction ms using List.reverseRecOn with
  | nil => rfl
  | append_singleton ms m ih =>
      have hpolicy := policy_run x ms
      rw [runBy_concat, ih, run_concat]
      -- the log that the session has is one that it may have
      have hself := move_withLog (x.run ms) (x.run ms).scene.log m
      cases h : (x.run ms).returned? m with
      | none =>
          have hmove := moveBy_of_none (counselOf x.scene.policy) (x.run ms)
            (x.run ms).scene.log books h
          rw [← hself] at hmove
          exact hmove
      | some e =>
          have hmove := moveBy_of_returned (counselOf x.scene.policy) (x.run ms)
            (x.run ms).scene.log books h
          rw [← hpolicy, rejectBy_counselOf, ← shown_of_returned h, ← hself] at hmove
          rw [← hpolicy]
          exact hmove

end Counsel

/-! ## §4. One request. -/

/-- The refusal that a move returns to task `k`. -/
def returnedTo (k : Nat) (x : Session) (m : Move) : List Returned :=
  if m.polls k then (x.returned? m).toList else []

theorem returnedTo_of_not_polls {m : Move} {k : Nat} (h : m.polls k = false) (x : Session) :
    returnedTo k x m = [] := by
  unfold returnedTo
  rw [h, if_neg Bool.false_ne_true]

theorem returnedTo_poll (k : Nat) (x : Session) :
    returnedTo k x (.poll k) = (x.tasks[k]?.bind fun t => t.returned? x.scene).toList :=
  if_pos (polls_iff.mpr rfl)

/-- Nothing is returned where there is nobody to return it to. -/
theorem returnedTo_of_bind {x : Session} {k : Nat}
    (h : (x.tasks[k]?.bind fun t => t.returned? x.scene) = none) (m : Move) :
    returnedTo k x m = [] := by
  by_cases hp : m.polls k = true
  · rw [polls_iff.mp hp, returnedTo_poll, h]
    rfl
  · exact returnedTo_of_not_polls (by simpa using hp) x

theorem returnedTo_of_none {x : Session} {k : Nat} (h : x.tasks[k]? = none) (m : Move) :
    returnedTo k x m = [] :=
  returnedTo_of_bind (by rw [h]; rfl) m

theorem returned?_of_finished {t : Task} (h : t.stage = .finished) (s : Scene) :
    t.returned? s = none := by
  rw [Option.eq_none_iff_forall_ne_some]
  intro e he
  obtain ⟨c, guards, context, s0, -, hask, -, -⟩ := returned?_eq_some_iff.mp he
  exact hask.not_finished h

/-- What has ended is refused no more. -/
theorem Sound.returnedTo_of_finished {x : Session} (h : x.Sound) {k : Nat} {t : Task}
    (hk : x.tasks[k]? = some t) (hst : t.stage = .finished) (ms : List Move) :
    trail (returnedTo k) x ms = [] := by
  induction ms generalizing x t with
  | nil => rfl
  | cons m ms ih =>
      obtain ⟨u, hu, hheir⟩ := (h.onward m).heir k t hk
      have hrest := ih (h.move m) hu (hheir.stays hst)
      have hnow : returnedTo k x m = [] := by
        refine returnedTo_of_bind ?_ m
        rw [hk, Option.bind_some, returned?_of_finished hst]
      show returnedTo k x m ++ trail (returnedTo k) (x.move m) ms = []
      rw [hnow, hrest]
      rfl

/-- **WHAT IS RETURNED TO ONE REQUEST** that got so many tickets: no refusal, or one, with which it
has ended. -/
inductive TurnedAway (t : Task) (c : Call) (got : Nat) : List Returned → Prop where
  | never : TurnedAway t c got []
  | once (hst : t.stage = .finished) (hr : c.reply ≠ .ticket) (hn : got = 0) (reason : Reason) :
      TurnedAway t c got [⟨t.name, c.reply, reason⟩]

/-- What is returned to all calls, and to those that have not come yet. -/
structure Dismissed (x : Session) (got : List Nat) (sent : Nat → List Returned) : Prop where
  told : ∀ (k : Nat) (t : Task) (c : Call), x.tasks[k]? = some t → t.job = .call c →
    TurnedAway t c (got.count k) (sent k)
  unborn : ∀ k, x.tasks.length ≤ k → sent k = []

section Moves

variable {policy : Policy} {x : Session} {got : List Nat} {tale : Nat → List Event}
  {sent : Nat → List Returned} {k : Nat}

/-- What is returned to a call that has ended stays so. -/
theorem TurnedAway.of_finish {t : Task} {c : Call} {n : Nat} {es : List Returned}
    (h : TurnedAway t c n es) (u : Task) (hname : u.name = t.name)
    (hst : t.stage = .finished → u.stage = .finished) : TurnedAway u c n es := by
  cases h with
  | never => exact .never
  | once hs hr hn reason => exact hname ▸ .once (hst hs) hr hn reason

/-- A poll that returns a refusal issues no ticket. -/
theorem Sound.newTickets_of_returned (h : x.Sound) {t : Task} (hk : x.tasks[k]? = some t)
    {e : Returned} (he : t.returned? x.scene = some e) :
    newTickets x.scene.gate (t.poll x.scene).2.gate = 0 := by
  obtain ⟨c, guards, context, s0, hc, hask, -, -⟩ := returned?_eq_some_iff.mp he
  refine newTickets_of_eq ?_
  rw [hask.poll_eq hc]
  show s0.gate.counters.admitted = _
  rw [hask.counters (h.placed t (List.mem_of_getElem? hk))]
  exact Gate.admitted_recordRejected x.scene.gate.counters e.reason

/-- A poll of a call that was there before. -/
theorem Dismissed.poll (hd : Dismissed x got sent) (h : x.Sound)
    (hb : Booked policy x got tale) {t : Task} {c : Call} (hk : x.tasks[k]? = some t)
    (hc : t.job = .call c) :
    TurnedAway (t.poll x.scene).1 c (got.count k + newTickets x.scene.gate (t.poll x.scene).2.gate)
      (sent k ++ (t.returned? x.scene).toList) := by
  have htold := hd.told k t c hk hc
  generalize sent k = es at htold ⊢
  cases he : t.returned? x.scene with
  | some e =>
      -- who asks has no ticket, and was not refused before
      have hnew := h.newTickets_of_returned hk he
      obtain ⟨c', guards, context, s0, hc', hask, hr, heq⟩ := returned?_eq_some_iff.mp he
      rw [hc] at hc'
      cases hc'
      obtain ⟨hn, -⟩ := (hb.told k t c hk hc).of_asks hask
      obtain ⟨s1, -, hpoll, -⟩ := poll_of_returned he
      rw [hn, hnew]
      cases htold with
      | once hst => exact absurd hst hask.not_finished
      | never =>
          rw [hpoll, heq]
          exact .once rfl hr rfl e.reason
  | none =>
      rw [Option.toList_none, List.append_nil]
      cases htold with
      | never => exact .never
      | once hst hr hn reason =>
          rw [poll_of_finished hst, newTickets_of_eq rfl]
          exact .once hst hr hn reason

/-- **ONE MOVE** returns a refusal to one request at most, and to none that it gives a ticket. -/
theorem Dismissed.move (hd : Dismissed x got sent) (h : x.Sound) (hb : Booked policy x got tale)
    (m : Move) :
    Dismissed (x.move m) (got ++ x.issuedTo m) (fun k => sent k ++ returnedTo k x m) := by
  constructor
  case told =>
    intro k u c hu hc
    rw [List.count_append]
    by_cases hlt : k < x.tasks.length
    · obtain ⟨t, hk⟩ : ∃ t, x.tasks[k]? = some t := ⟨_, List.getElem?_eq_getElem hlt⟩
      obtain ⟨u', hu', hheir⟩ := (h.onward m).heir k t hk
      rw [hu] at hu'
      cases hu'
      have hct : t.job = .call c := hheir.job ▸ hc
      rcases fate x m hk with rfl | ⟨hnot, -⟩
      · have hself := getElem?_onTask_self hk Task.poll
        rw [← Option.some.inj (hself.symm.trans hu), count_issuedTo_poll, scene_move_poll hk,
          returnedTo_poll, hk]
        exact hd.poll h hb hk hct
      · rw [List.count_eq_zero_of_not_mem (issuedTo_of_not_polls hnot x),
          returnedTo_of_not_polls hnot, List.append_nil]
        exact (hd.told k t c hk hct).of_finish u hheir.name hheir.stays
    · -- it has just come
      have hle : x.tasks.length ≤ k := by omega
      rw [hd.unborn k hle, returnedTo_of_none (List.getElem?_eq_none hle)]
      exact .never
  case unborn =>
    intro k hk
    have hle := Nat.le_trans (h.onward m).length_le hk
    rw [hd.unborn k hle, returnedTo_of_none (List.getElem?_eq_none hle)]
    rfl

end Moves

/-- **WHAT A WHOLE RUN RETURNS TO EACH REQUEST.** -/
theorem Sound.dismissed_run {x : Session} (h : x.Sound) (hx : x.tasks = []) (ms : List Move) :
    Dismissed (x.run ms) (admissions x ms) (fun k => trail (returnedTo k) x ms) := by
  induction ms using List.reverseRecOn with
  | nil =>
      refine ⟨fun k t c hk => ?_, fun k hk => rfl⟩
      rw [run_nil, hx] at hk
      cases hk
  | append_singleton ms m ih =>
      have hstep := ih.move (h.run ms) (h.booked_run hx ms) m
      rw [run_concat]
      unfold admissions at hstep ⊢
      simp only [trail_concat]
      exact hstep

/-- **WHO IS DROPPED IS NOT REFUSED**: neither before nor after. -/
theorem Sound.returnedTo_of_dropped {x : Session} (h : x.Sound) (hx : x.tasks = [])
    {before after : List Move} {m : Move} {k : Nat} {t u : Task} {c : Call}
    (hm : m.polls k = false) (hk : (x.run before).tasks[k]? = some t) (hc : t.job = .call c)
    (hopen : t.stage ≠ .finished) (hu : (x.run (before ++ [m])).tasks[k]? = some u)
    (hend : u.stage = .finished) : trail (returnedTo k) x (before ++ m :: after) = [] := by
  have hbefore : trail (returnedTo k) x before = [] := by
    have htold := (h.dismissed_run hx before).told k t c hk hc
    generalize trail (returnedTo k) x before = sent at htold ⊢
    cases htold with
    | never => rfl
    | once hst => exact absurd hst hopen
  have hafter := (h.run (before ++ [m])).returnedTo_of_finished hu hend after
  rw [show before ++ m :: after = (before ++ [m]) ++ after by rw [List.append_assoc]; rfl,
    trail_append, trail_concat, hbefore, hafter, returnedTo_of_not_polls hm]
  rfl

end Admission.Session

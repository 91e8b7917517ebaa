/-
  Admission.Proofs.Session.Turn — what one poll of a task does.

  A poll of a throttled request goes through up to three stations.  A guard whose deadline has come
  FIRES, and nothing within it is reached.  Otherwise a request without a ticket ASKS at the gate.
  One that has its ticket ACTS: its handler goes on from where it stands.  Each station is a relation
  that names the scene in which it is reached, and `Turn` lists what a poll can come to.

  Main results:
    * `turn_poll` — the cases of a poll of a throttled request;
    * `progress_proceed` — a handler that goes on is suspended, or it ends;
    * `aside_poll` — the cases of a poll of any other task;
    * `now_poll` — time stands still while a task is polled.
-/
import Admission.Proofs.Context.Done
import Admission.Proofs.Gate.Frame
import Admission.Proofs.Session.Run

namespace Admission.Session

/-! ## §1. Handlers. -/

/-- What a handler shows as it takes up these actions. -/
def opening (name : String) : List Action → List Event
  | .announce :: _ => [.started name]
  | _ => []

theorem opening_of_notMem {name : String} {todo : List Action} (h : Action.announce ∉ todo) :
    opening name todo = [] := by
  unfold opening
  split
  · simp at h
  · rfl

/-- Taking a permit changes the permits. -/
theorem exists_permits_of_takePermit? {s s' : Scene} {name : String}
    (h : s.takePermit? name = some s') : ∃ permits, s' = { s with permits } := by
  unfold Scene.takePermit? at h
  split at h
  · exact ⟨_, (Option.some.inj h).symm⟩
  · cases h

/-- A handler that does not announce itself any more changes nothing but the permits. -/
theorem perform_of_notMem (name : String) {todo : List Action} {s : Scene}
    (h : Action.announce ∉ todo) : ∃ left permits,
      s.perform name todo = (left, { s with permits }) ∧ Action.announce ∉ left := by
  -- along the actions, up to the first at which the handler stops
  induction todo generalizing s with
  | nil => exact ⟨[], s.permits, rfl, h⟩
  | cons a rest ih =>
      have hrest : Action.announce ∉ rest := fun hm => h (List.mem_cons_of_mem _ hm)
      cases a with
      | announce => simp at h
      | awaitPermit =>
          unfold Scene.perform
          cases hp : s.takePermit? name with
          | none => exact ⟨_, s.permits, rfl, h⟩
          | some s' =>
              obtain ⟨permits, rfl⟩ := exists_permits_of_takePermit? hp
              exact ih hrest
      | sleep d =>
          unfold Scene.perform
          split
          · exact ih hrest
          · refine ⟨_, s.permits, rfl, ?_⟩
            simpa using hrest
      | sleepUntil u =>
          unfold Scene.perform
          split
          · exact ih hrest
          · exact ⟨_, s.permits, rfl, h⟩

/-- **WHAT A HANDLER CHANGES**: the permits, and the log by its announcement. -/
theorem perform_eq (name : String) {todo : List Action} (s : Scene)
    (h : Action.announce ∉ todo.tail) : ∃ left permits,
      s.perform name todo = (left, { s with permits, log := s.log ++ opening name todo })
        ∧ Action.announce ∉ left := by
  by_cases hm : Action.announce ∈ todo
  · -- the announcement is at the head
    obtain ⟨rest, rfl⟩ : ∃ rest, todo = .announce :: rest := by
      cases todo with
      | nil => cases hm
      | cons a rest =>
          rcases List.mem_cons.mp hm with rfl | hr
          · exact ⟨rest, rfl⟩
          · exact absurd hr h
    unfold Scene.perform
    exact perform_of_notMem name (s := s.emit (.started name)) h
  · rw [opening_of_notMem hm, List.append_nil]
    exact perform_of_notMem name hm

/-! ## §2. The stations of a poll. -/

section Stations

variable (t : Task) (c : Call) (s : Scene)

/-- **THE REQUEST ASKS AT THE GATE**: the guards that it has passed, the context that may end its
wait, the scene that the gate leaves, and the verdict. -/
inductive Asks : List Guard → Option Context → Scene → Verdict → Prop where
  /-- For the first time. -/
  | enters {a : Task.Armed} {g : Gate} {v : Verdict} (hf : t.stage = .fresh)
      (ha : Task.arm s.now c.timeouts c.ambient s.tokens = a) (hn : a.fired = false)
      (hg : s.gate.enter t.key s.now (Task.isOver a.context { s with tokens := a.tokens })
        = (g, v)) :
      Asks a.guards a.context { s with tokens := a.tokens, gate := g } v
  /-- Where it is parked. -/
  | resumes {guards : List Guard} {context : Option Context} {g : Gate} {v : Verdict}
      (hp : t.stage = .parked guards context) (hd : Task.dueGuard? s.now guards = none)
      (hg : s.gate.resume t.key s.now (Task.isOver context s) = (g, v)) :
      Asks guards context { s with gate := g } v

/-- **A GUARD FIRES**: its context is cancelled, and what is within it is dropped. -/
inductive Fires : Scene → Prop where
  /-- It has no time at all. -/
  | atOnce {a : Task.Armed} (hf : t.stage = .fresh)
      (ha : Task.arm s.now c.timeouts c.ambient s.tokens = a) (hy : a.fired = true) :
      Fires { s with tokens := a.tokens }
  | parked {guards : List Guard} {context : Option Context} {g : Guard}
      (hp : t.stage = .parked guards context) (hd : Task.dueGuard? s.now guards = some g) :
      Fires ({ s with tokens := s.tokens.cancel g.token }.abandon t.key)
  | running {guards : List Guard} {todo : List Action} {g : Guard}
      (hp : t.stage = .running guards todo) (hd : Task.dueGuard? s.now guards = some g) :
      Fires ({ s with tokens := s.tokens.cancel g.token }.discardTicket t.key)

/-- **THE HANDLER ACTS**: the guards around it, what it has left to do, and the scene. -/
inductive Acts : List Guard → List Action → Scene → Prop where
  /-- It is called. -/
  | begins {guards : List Guard} {context : Option Context} {s0 : Scene}
      (h : Asks t c s guards context s0 .admitted) (hr : c.reply ≠ .ticket) :
      Acts guards c.script.actions (s0.record (·.recordAdmitted))
  | goesOn {guards : List Guard} {todo : List Action} (hp : t.stage = .running guards todo)
      (hd : Task.dueGuard? s.now guards = none) : Acts guards todo s

/-- **THE CASES OF A POLL** of a throttled request. -/
inductive Turn : Task × Scene → Prop where
  /-- It has ended before. -/
  | idle (h : t.stage = .finished ∨ ∃ next, t.stage = .reporting next) : Turn (t, s)
  | late {s0 : Scene} (h : Fires t c s s0) : Turn (t.missDeadline c s0)
  | parks {guards : List Guard} {context : Option Context} {s0 : Scene}
      (h : Asks t c s guards context s0 .parked) :
      Turn ({ t with stage := .parked guards context }, s0)
  | refused {guards : List Guard} {context : Option Context} {s0 : Scene} {reason : Reason}
      (h : Asks t c s guards context s0 (.rejected reason)) :
      Turn (t.finish, (s0.record (·.recordRejected reason)).emit
        (Task.refusalEvent t.name c.reply s0.policy reason))
  /-- Its caller keeps the ticket. -/
  | keeps {guards : List Guard} {context : Option Context} {s0 : Scene}
      (h : Asks t c s guards context s0 .admitted) (hr : c.reply = .ticket) :
      Turn (t.finish, ((s0.record (·.recordAdmitted)).keepTicket t.name t.key).emit
        (.admitted t.name))
  | acts {guards : List Guard} {todo : List Action} {s0 : Scene} (h : Acts t c s guards todo s0) :
      Turn (t.proceed c guards todo s0)

end Stations

section Polls

variable {t : Task} {c : Call} {s s0 : Scene} {guards : List Guard} {context : Option Context}
  {v : Verdict} {todo : List Action}

/-- A request that asks has no other station to go through. -/
theorem Asks.poll_eq (h : Asks t c s guards context s0 v) (hc : t.job = .call c) :
    t.poll s = t.settleVerdict c guards context s0 v := by
  cases h with
  | enters hf ha hn hg =>
      have hpoll : t.poll s = t.enter c s := by simp only [Task.poll, hc, hf]
      rw [hpoll]
      unfold Task.enter
      simp only [ha, hn, hg, Bool.false_eq_true, if_false]
  | resumes hp hd hg =>
      have hpoll : t.poll s = t.resume c guards context s := by simp only [Task.poll, hc, hp]
      rw [hpoll]
      unfold Task.resume
      simp only [hd, hg]

theorem settleVerdict_admitted (t : Task) {c : Call} (hr : c.reply ≠ .ticket)
    (guards : List Guard) (context : Option Context) (s : Scene) :
    t.settleVerdict c guards context s .admitted
      = t.proceed c guards c.script.actions (s.record (·.recordAdmitted)) := by
  unfold Task.settleVerdict
  cases hreply : c.reply with
  | ticket => exact absurd hreply hr
  | value | http => rfl

theorem Acts.poll_eq (h : Acts t c s guards todo s0) (hc : t.job = .call c) :
    t.poll s = t.proceed c guards todo s0 := by
  cases h with
  | begins hask hr => rw [hask.poll_eq hc, settleVerdict_admitted t hr]
  | goesOn hp hd =>
      have hpoll : t.poll s = t.advance c guards todo s := by simp only [Task.poll, hc, hp]
      rw [hpoll]
      unfold Task.advance
      simp only [hd]

theorem Fires.poll_eq (h : Fires t c s s0) (hc : t.job = .call c) :
    t.poll s = t.missDeadline c s0 := by
  cases h with
  | atOnce hf ha hy =>
      have hpoll : t.poll s = t.enter c s := by simp only [Task.poll, hc, hf]
      rw [hpoll]
      unfold Task.enter
      simp only [ha, hy, if_true]
  | @parked guards context g hp hd =>
      have hpoll : t.poll s = t.resume c guards context s := by simp only [Task.poll, hc, hp]
      rw [hpoll]
      unfold Task.resume
      simp only [hd]
  | @running guards todo g hp hd =>
      have hpoll : t.poll s = t.advance c guards todo s := by simp only [Task.poll, hc, hp]
      rw [hpoll]
      unfold Task.advance
      simp only [hd]

end Polls

theorem turn_settleVerdict {t : Task} {c : Call} {s s0 : Scene} {guards : List Guard}
    {context : Option Context} {v : Verdict} (h : Asks t c s guards context s0 v) :
    Turn t c s (t.settleVerdict c guards context s0 v) := by
  cases v with
  | parked => exact .parks h
  | rejected reason => exact .refused h
  | admitted =>
      by_cases hr : c.reply = .ticket
      · have hkeeps : t.settleVerdict c guards context s0 .admitted
            = (t.finish, ((s0.record (·.recordAdmitted)).keepTicket t.name t.key).emit
              (.admitted t.name)) := by
          simp only [Task.settleVerdict, hr]
        rw [hkeeps]
        exact .keeps h hr
      · rw [settleVerdict_admitted t hr]
        exact .acts (.begins h hr)

/-- A task is a throttled request, or it does not concern the gate. -/
theorem call_or_not (t : Task) : (∃ c, t.job = .call c) ∨ ∀ c, t.job ≠ .call c := by
  cases t.job with
  | call c => exact .inl ⟨c, rfl⟩
  | free | watch | report => exact .inr fun _ => nofun

/-- **WHAT A POLL OF A THROTTLED REQUEST CAN COME TO.** -/
theorem turn_poll {t : Task} {c : Call} (hc : t.job = .call c) (s : Scene) :
    Turn t c s (t.poll s) := by
  -- guards are looked at first in every stage, and the gate is asked only if none of them fires
  cases hst : t.stage with
  | fresh =>
      have hpoll : t.poll s = t.enter c s := by simp only [Task.poll, hc, hst]
      rw [hpoll]
      unfold Task.enter
      simp only
      split
      next hy => exact .late (.atOnce hst rfl hy)
      next hn => exact turn_settleVerdict (.enters hst rfl (by simpa using hn) rfl)
  | parked guards context =>
      have hpoll : t.poll s = t.resume c guards context s := by simp only [Task.poll, hc, hst]
      rw [hpoll]
      unfold Task.resume
      split
      next g hd => exact .late (.parked hst hd)
      next hd => exact turn_settleVerdict (.resumes hst hd rfl)
  | running guards todo =>
      have hpoll : t.poll s = t.advance c guards todo s := by simp only [Task.poll, hc, hst]
      rw [hpoll]
      unfold Task.advance
      split
      next g hd => exact .late (.running hst hd)
      next hd => exact .acts (.goesOn hst hd)
  | reporting next =>
      have hpoll : t.poll s = (t, s) := by simp only [Task.poll, hc, hst]
      rw [hpoll]
      exact .idle (.inr ⟨next, hst⟩)
  | finished =>
      have hpoll : t.poll s = (t, s) := by simp only [Task.poll, hst]
      rw [hpoll]
      exact .idle (.inl hst)

/-! ## §3. What the stations leave alone. -/

section Frames

variable {t : Task} {c : Call} {s s0 : Scene} {guards : List Guard} {context : Option Context}
  {v : Verdict} {todo : List Action}

/-- A request that asks, or whose handler acts, has not ended. -/
theorem Asks.not_finished (h : Asks t c s guards context s0 v) : t.stage ≠ .finished := by
  intro he
  cases h with
  | enters hf =>
      rw [hf] at he
      cases he
  | resumes hp =>
      rw [hp] at he
      cases he

theorem Acts.not_finished (h : Acts t c s guards todo s0) : t.stage ≠ .finished := by
  cases h with
  | begins h => exact h.not_finished
  | goesOn hp =>
      intro he
      rw [hp] at he
      cases he

/-- Asking changes the gate and the tokens. -/
theorem Asks.exists_eq (h : Asks t c s guards context s0 v) :
    ∃ gate tokens, s0 = { s with gate, tokens } := by
  cases h with
  | enters => exact ⟨_, _, rfl⟩
  | resumes => exact ⟨_, s.tokens, rfl⟩

theorem exists_eq_abandon (s : Scene) (key : Nat) :
    ∃ metrics, s.abandon key = { s with gate := s.gate.abandon key, metrics } := by
  unfold Scene.abandon
  cases hw : s.gate.waiter? key with
  | none =>
      rw [Gate.abandon_of_none hw]
      exact ⟨s.metrics, rfl⟩
  | some u => exact ⟨_, rfl⟩

/-- A guard that fires changes the gate, the tokens and the figures. -/
theorem Fires.exists_eq (h : Fires t c s s0) :
    ∃ gate tokens metrics, s0 = { s with gate, tokens, metrics } := by
  cases h with
  | atOnce => exact ⟨s.gate, _, s.metrics, rfl⟩
  | parked hp hd =>
      obtain ⟨metrics, he⟩ := exists_eq_abandon { s with tokens := s.tokens.cancel _ } t.key
      rw [he]
      exact ⟨_, _, metrics, rfl⟩
  | running => exact ⟨_, _, s.metrics, rfl⟩

theorem Acts.exists_eq (h : Acts t c s guards todo s0) :
    ∃ gate tokens metrics, s0 = { s with gate, tokens, metrics } := by
  cases h with
  | begins h =>
      obtain ⟨gate, tokens, rfl⟩ := h.exists_eq
      exact ⟨gate, tokens, _, rfl⟩
  | goesOn => exact ⟨s.gate, s.tokens, s.metrics, rfl⟩

/-! ### Nothing is shown on the way. -/

theorem log_keepTicket (s : Scene) (name : String) (key : Nat) :
    (s.keepTicket name key).log = s.log := by
  unfold Scene.keepTicket
  cases s.kept.lookup name <;> rfl

theorem Asks.log_eq (h : Asks t c s guards context s0 v) : s0.log = s.log := by
  obtain ⟨gate, tokens, rfl⟩ := h.exists_eq
  rfl

theorem Asks.log_kept (h : Asks t c s guards context s0 v) (name : String) (key : Nat) :
    ((s0.record (·.recordAdmitted)).keepTicket name key).log = s.log := by
  rw [log_keepTicket]
  exact h.log_eq

theorem Fires.log_eq (h : Fires t c s s0) : s0.log = s.log := by
  obtain ⟨gate, tokens, metrics, rfl⟩ := h.exists_eq
  rfl

theorem Acts.log_eq (h : Acts t c s guards todo s0) : s0.log = s.log := by
  obtain ⟨gate, tokens, metrics, rfl⟩ := h.exists_eq
  rfl

end Frames

/-! ## §4. A handler that goes on. -/

/-- **WHAT A HANDLER THAT GOES ON COMES TO.**  Whether it is suspended or ends, it has changed the
permits and the log. -/
inductive Progress (t : Task) (c : Call) (guards : List Guard) (todo : List Action) (s : Scene) :
    Task × Scene → Prop where
  | suspended {left : List Action} {permits : List (String × Nat)} (hl : left ≠ [])
      (hq : Action.announce ∉ left) (h : s.perform t.name todo
        = (left, { s with permits, log := s.log ++ opening t.name todo })) :
      Progress t c guards todo s ({ t with stage := .running guards left },
        { s with permits, log := s.log ++ opening t.name todo })
  /-- The ticket is dropped, and then the end is seen. -/
  | ended {permits : List (String × Nat)} (h : s.perform t.name todo
        = ([], { s with permits, log := s.log ++ opening t.name todo })) :
      Progress t c guards todo s (t.finish,
        (Scene.discardTicket { s with permits, log := s.log ++ opening t.name todo } t.key).emit
          (Task.endingEvent t.name c.reply c.script.ending))

theorem progress_proceed (t : Task) (c : Call) (guards : List Guard) {todo : List Action}
    (s : Scene) (h : Action.announce ∉ todo.tail) :
    Progress t c guards todo s (t.proceed c guards todo s) := by
  obtain ⟨left, permits, hp, hq⟩ := perform_eq t.name s h
  unfold Task.proceed
  rw [hp]
  cases left with
  | nil => exact .ended hp
  | cons a rest => exact .suspended (List.cons_ne_nil a rest) hq hp

/-! ## §5. Tasks that do not concern the gate. -/

theorem poll_of_finished {t : Task} (h : t.stage = .finished) (s : Scene) : t.poll s = (t, s) := by
  unfold Task.poll
  rw [h]

theorem poll_free {t : Task} {v : Http.Visit} (hj : t.job = .free v) (hn : t.stage ≠ .finished)
    (s : Scene) : t.poll s
      = (t.finish, s.emit (.response t.name (v.freeResponse s.gate.snapshot s.metrics))) := by
  unfold Task.poll
  rw [hj]
  cases hst : t.stage with
  | finished => exact absurd hst hn
  | fresh | parked | running | reporting => rfl

theorem poll_watch {t : Task} {c : Context} (hj : t.job = .watch c) (hn : t.stage ≠ .finished)
    (s : Scene) : t.poll s = if c.isDone s.tokens s.now
      then (t.finish, s.emit (.contextDone t.name)) else (t, s) := by
  unfold Task.poll
  rw [hj, ← c.wakes_eq_isDone]
  cases hst : t.stage with
  | finished => exact absurd hst hn
  | fresh | parked | running | reporting => rfl

theorem reporting_or_not (t : Task) :
    (∃ next, t.stage = .reporting next) ∨ ∀ next, t.stage ≠ .reporting next := by
  cases t.stage with
  | reporting next => exact .inl ⟨next, rfl⟩
  | fresh | parked | running | finished => exact .inr fun _ => nofun

theorem poll_report {t : Task} {interval : Duration} (hj : t.job = .report interval)
    {next : Duration} (hst : t.stage = .reporting next) (s : Scene) :
    t.poll s = if next ≤ s.now
      then ({ t with stage := .reporting (Task.nextReport interval next s.now) },
        Task.reportFigures s)
      else (t, s) := by
  unfold Task.poll
  rw [hj, hst]

theorem poll_report_first {t : Task} {interval : Duration} (hj : t.job = .report interval)
    (hn : t.stage ≠ .finished) (hst : ∀ next, t.stage ≠ .reporting next) (s : Scene) :
    t.poll s = if interval.nanos = 0 then (t.finish, s)
      else ({ t with stage := .reporting (s.now + interval) }, Task.reportFigures s) := by
  unfold Task.poll
  rw [hj]
  cases hs : t.stage with
  | finished => exact absurd hs hn
  | reporting next => exact absurd hs (hst next)
  | fresh | parked | running => rfl

/-- **THE CASES OF A POLL OF ANY OTHER TASK.** -/
inductive Aside (t : Task) (s : Scene) : Task × Scene → Prop where
  | still : Aside t s (t, s)
  | answers (answer : Http.Response) : Aside t s (t.finish, s.emit (.response t.name answer))
  | sees : Aside t s (t.finish, s.emit (.contextDone t.name))
  | reports (next : Duration) :
      Aside t s ({ t with stage := .reporting next }, Task.reportFigures s)
  /-- A reporter without an interval. -/
  | leaves : Aside t s (t.finish, s)

theorem aside_poll {t : Task} (h : ∀ c, t.job ≠ .call c) (s : Scene) : Aside t s (t.poll s) := by
  by_cases hn : t.stage = .finished
  · rw [poll_of_finished hn]
    exact .still
  · cases hj : t.job with
    | call c => exact absurd hj (h c)
    | free r =>
        rw [poll_free hj hn]
        exact .answers _
    | watch c =>
        rw [poll_watch hj hn]
        split
        · exact .sees
        · exact .still
    | report interval =>
        -- the first poll of a reporter sets its timer
        rcases reporting_or_not t with ⟨next, hr⟩ | hr
        · rw [poll_report hj hr]
          split
          · exact .reports _
          · exact .still
        · rw [poll_report_first hj hn hr]
          split
          · exact .leaves
          · exact .reports _

/-! ## §6. Time stands still. -/

theorem now_perform (name : String) (todo : List Action) (s : Scene) :
    (s.perform name todo).2.now = s.now := by
  induction todo generalizing s with
  | nil => rfl
  | cons a rest ih =>
      cases a with
      | announce => exact ih (s.emit (.started name))
      | awaitPermit =>
          unfold Scene.perform
          cases hp : s.takePermit? name with
          | none => rfl
          | some s' =>
              obtain ⟨permits, rfl⟩ := exists_permits_of_takePermit? hp
              exact ih { s with permits }
      | sleep d =>
          unfold Scene.perform
          split
          · exact ih s
          · rfl
      | sleepUntil u =>
          unfold Scene.perform
          split
          · exact ih s
          · rfl

theorem now_proceed (t : Task) (c : Call) (guards : List Guard) (todo : List Action) (s : Scene) :
    (t.proceed c guards todo s).2.now = s.now := by
  have hnow := now_perform t.name todo s
  unfold Task.proceed
  generalize s.perform t.name todo = out at hnow ⊢
  obtain ⟨left, s1⟩ := out
  cases left <;> exact hnow

theorem now_keepTicket (s : Scene) (name : String) (key : Nat) :
    (s.keepTicket name key).now = s.now := by
  unfold Scene.keepTicket
  cases s.kept.lookup name <;> rfl

/-- **TIME STANDS STILL** while a task is polled. -/
theorem now_poll (t : Task) (s : Scene) : (t.poll s).2.now = s.now := by
  rcases call_or_not t with ⟨c, hc⟩ | hj
  · -- whatever a poll does to gate, tokens and metrics, it does not touch the clock
    have hturn := turn_poll hc s
    generalize t.poll s = out at hturn ⊢
    cases hturn with
    | idle => rfl
    | late hfire =>
        obtain ⟨gate, tokens, metrics, rfl⟩ := hfire.exists_eq
        rfl
    | parks hask | refused hask =>
        obtain ⟨gate, tokens, rfl⟩ := hask.exists_eq
        rfl
    | @keeps guards context s0 hask =>
        show ((s0.record (·.recordAdmitted)).keepTicket t.name t.key).now = _
        rw [now_keepTicket]
        obtain ⟨gate, tokens, rfl⟩ := hask.exists_eq
        rfl
    | acts hact =>
        rw [now_proceed]
        obtain ⟨gate, tokens, metrics, rfl⟩ := hact.exists_eq
        rfl
  · have haside := aside_poll hj s
    generalize t.poll s = out at haside ⊢
    cases haside <;> rfl

end Admission.Session

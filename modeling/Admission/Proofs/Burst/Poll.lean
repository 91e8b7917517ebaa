/-
  Admission.Proofs.Burst.Poll — what a poll does to a request of a burst.

  A request of a burst is a task whose stage follows from its PLACE.  `Standing b policy t a c d e`
  says what the tasks share at `t` milliseconds: the clock, tokens none of which is cancelled before
  the deadline, and a gate with tickets `a … c - 1` and parked requests `d … e - 1`.  Each lemma
  takes a request in one place, at the edge of its range, and says where one poll takes it, what is
  seen of it, and which edge of the gate has moved.
-/
import Admission.Proofs.Burst.Timetable
import Admission.Proofs.Gate.Lineup
import Admission.Proofs.Session.Timer

namespace Admission

namespace Burst

open Session (Scene Stage Task Guard Event Site)

/-! ## §1. The tasks of a burst. -/

/-- The request that a burst is made of. -/
def get : Http.Request := ⟨"GET", "/"⟩

/-- How the router finishes what it answers to one of them. -/
def frame : Http.Frame := { method := "GET", endpoint := .page, shared := true }

/-- The router that a burst comes to. -/
def site (b : Burst) : Site := ⟨.ofMillis b.work, b.deadline.map .ofMillis⟩

/-- What each request of a burst asks for. -/
def call (b : Burst) : Session.Call :=
  { reply := .http frame
    timeouts := (b.deadline.map .ofMillis).toList
    ambient := none
    script := ⟨[.sleep (.ofMillis b.work)], .response (.ofText .ok ".")⟩ }

theorem siteJob_get (b : Burst) : Session.siteJob b.site none get = .call b.call := by
  have hpath : get.path = "/" := by decide
  have hmethod : get.method ≠ "OPTIONS" := by decide
  have hwork : ¬ b.site.workDelay.nanos = 0 := by
    have := b.work_pos
    show ¬ 1000000 * b.work = 0
    omega
  have hscript : Session.readScript get (Session.workScript b.site)
      = ⟨[.sleep (.ofMillis b.work)], .response (.ofText .ok ".")⟩ := by
    have hread : get.isRead = true := by decide
    unfold Session.readScript Session.workScript
    rw [hread, if_neg hwork]
    rfl
  have hframe : (b.site.visit get).frame = frame := by
    rw [Session.Site.visit, Http.Router.visit_of_find? _
      ((Http.Router.find?_application _ _).trans (if_pos hpath))]
    rfl
  rw [Session.siteJob_of_page b.site none hpath hmethod, hscript, hframe]
  rfl

/-- The deadline guards around request `k`. -/
def guards (b : Burst) (k : Nat) : List Guard :=
  match b.deadline with
  | some d => [⟨.ofMillis d, ⟨k, []⟩⟩]
  | none => []

/-- The context within them. -/
def context (b : Burst) (k : Nat) : Option Context :=
  match b.deadline with
  | some d => some ⟨none, ⟨k, []⟩, some (.ofMillis d)⟩
  | none => none

/-- The stage of request `k` in a place. -/
def stage (b : Burst) (k : Nat) : Place → Stage
  | .parked => .parked (b.guards k) (b.context k)
  | .running => .running (b.guards k) [.sleepUntil (.ofMillis (b.turn k + b.delay))]
  | .ended => .finished

/-- Request `k` at a stage. -/
def taskAt (b : Burst) (name : Nat → String) (k : Nat) (stage : Stage) : Task :=
  ⟨k, name k, .call b.call, stage⟩

/-- Request `k` in a place. -/
def task (b : Burst) (name : Nat → String) (k : Nat) (p : Place) : Task :=
  b.taskAt name k (b.stage k p)

/-- What the router makes of an outcome. -/
def answer (policy : Policy) : Outcome → Http.Response
  | .served => .ofText .ok "."
  | .refused reason => .ofRejection (policy.reject reason)
  | .late => .deadlineExceeded

/-- How the end of request `k` is seen. -/
def event (name : Nat → String) (policy : Policy) (k : Nat) (o : Outcome) : Event :=
  .response (name k) (frame.finish (answer policy o))

/-! ## §2. What the tasks share. -/

/-- **THE SCENE OF A BURST** at `t` milliseconds. -/
structure Standing (b : Burst) (policy : Policy) (t a c d e : Nat) (s : Scene) : Prop where
  now : s.now = .ofMillis t
  policy : s.policy = policy
  uncancelled : ¬ b.isLate t → s.tokens.cancelled = []
  gate : Gate.Arrayed b.limit b.capacity b.backlogWait a c d e s.gate

section

variable {b : Burst} {name : Nat → String} {policy : Policy} {t a c d e k : Nat} {s : Scene}

theorem dueGuard?_of_late (hl : b.isLate t) (k : Nat) :
    ∃ g, Task.dueGuard? (.ofMillis t) (b.guards k) = some g := by
  cases hd : b.deadline with
  | none => simp [isLate, hd] at hl
  | some d =>
      simp only [isLate, hd, Option.any_some, decide_eq_true_eq] at hl
      have hle : Duration.ofMillis d ≤ .ofMillis t := (Duration.ofMillis_le_iff d t).mpr hl
      rw [guards, hd]
      exact ⟨_, Session.dueGuard?_singleton hle⟩

theorem dueGuard?_of_not_late (hl : ¬ b.isLate t) (k : Nat) :
    Task.dueGuard? (.ofMillis t) (b.guards k) = none := by
  cases hd : b.deadline with
  | none =>
      rw [guards, hd]
      rfl
  | some d =>
      simp only [isLate, hd, Option.any_some, decide_eq_true_eq] at hl
      have hle : ¬ Duration.ofMillis d ≤ .ofMillis t :=
        fun h => hl ((Duration.ofMillis_le_iff d t).mp h)
      rw [guards, hd]
      exact Session.dueGuard?_singleton_of_not_le hle

/-- Before the deadline, the context of a request has not ended. -/
theorem isOver_context (h : Standing b policy t a c d e s) (hl : ¬ b.isLate t) (k : Nat) :
    Task.isOver (b.context k) s = false := by
  cases hd : b.deadline with
  | none => simp only [context, hd, Task.isOver]
  | some d =>
      have hc := h.uncancelled hl
      simp only [isLate, hd, Option.any_some, decide_eq_true_eq] at hl
      have hle : ¬ Duration.ofMillis d ≤ s.now := by
        rw [h.now]
        exact fun h => hl ((Duration.ofMillis_le_iff d t).mp h)
      rw [context, hd]
      exact Session.isOver_of_not_le hc hle

/-- The gate's timer is up when the patience of the burst is. -/
theorem expired_eq_isWeary (b : Burst) (t : Nat) :
    b.backlogWait.expired .zero (.ofMillis t) = b.isWeary t := by
  cases hw : b.wait with
  | none =>
      rw [backlogWait, hw, isWeary, patience, hw]
      rfl
  | some p =>
      rw [backlogWait, hw, isWeary, patience, hw, Option.map_some, Option.any_some,
        BacklogWait.expired_upTo, span_ofMillis, decide_eq_decide, Duration.ofMillis_le_iff]

/-! ## §3. Polls of requests that have come. -/

/-- One poll takes request `k` from a place to a place, shows events, and leaves the gate with these
ranges. -/
def Moves (b : Burst) (name : Nat → String) (policy : Policy) (t k : Nat) (s : Scene) (old : Stage)
    (p : Place) (a c d e : Nat) (shown : List Event) : Prop :=
  ∃ s', (b.taskAt name k old).poll s = (b.task name k p, s') ∧ Standing b policy t a c d e s'
    ∧ s'.log = s.log ++ shown

theorem Moves.of_eq (h : Standing b policy t a c d e s) {p : Place}
    (hp : (b.task name k p).poll s = (b.task name k p, s)) :
    Moves b name policy t k s (b.stage k p) p a c d e [] :=
  ⟨s, hp, h, (List.append_nil _).symm⟩

theorem poll_ended (b : Burst) (name : Nat → String) (k : Nat) (s : Scene) :
    (b.task name k .ended).poll s = (b.task name k .ended, s) := rfl

/-- **A RUNNING REQUEST IS LATE**: its ticket is dropped. -/
theorem running_late (h : Standing b policy t k c d e s) (hk : k < c) (hl : b.isLate t) :
    Moves b name policy t k s (b.stage k .running) .ended (k + 1) c d e
      [event name policy k .late] := by
  obtain ⟨g, hg⟩ := dueGuard?_of_late hl k
  rw [← h.now] at hg
  have hpoll : (b.task name k .running).poll s
      = (b.task name k .running).missDeadline b.call
          ({ s with tokens := s.tokens.cancel g.token }.discardTicket k) := by
    show Task.advance _ b.call (b.guards k) _ s = _
    simp only [Task.advance, hg]
    rfl
  exact ⟨_, hpoll, ⟨h.now, h.policy, fun hn => absurd hl hn, h.gate.discard hk⟩, rfl⟩

/-- **A RUNNING REQUEST IS DONE**: its ticket is dropped and the page is seen. -/
theorem running_served (h : Standing b policy t k c d e s) (hk : k < c) (hl : ¬ b.isLate t)
    (ht : b.turn k + b.delay ≤ t) :
    Moves b name policy t k s (b.stage k .running) .ended (k + 1) c d e
      [event name policy k .served] := by
  have hg := dueGuard?_of_not_late hl k
  rw [← h.now] at hg
  have htime : Duration.ofMillis (b.turn k + b.delay) ≤ s.now := by
    rw [h.now, Duration.ofMillis_le_iff]
    exact ht
  have hpoll : (b.task name k .running).poll s
      = (b.task name k .ended,
          (s.discardTicket k).emit
            (Task.endingEvent (name k) b.call.reply b.call.script.ending)) := by
    show Task.advance _ b.call (b.guards k) _ s = _
    simp only [Task.advance, hg]
    exact Session.proceed_of_le htime
  exact ⟨_, hpoll, ⟨h.now, h.policy, h.uncancelled, h.gate.discard hk⟩, rfl⟩

/-- A running request goes on. -/
theorem running_idle (h : Standing b policy t a c d e s) (hl : ¬ b.isLate t)
    (ht : t < b.turn k + b.delay) :
    (b.task name k .running).poll s = (b.task name k .running, s) := by
  have hg := dueGuard?_of_not_late hl k
  rw [← h.now] at hg
  have htime : ¬ Duration.ofMillis (b.turn k + b.delay) ≤ s.now := by
    rw [h.now, Duration.ofMillis_le_iff]
    omega
  show Task.advance _ b.call (b.guards k) _ s = _
  simp only [Task.advance, hg]
  exact Session.proceed_of_not_le htime

/-- What the admission of request `k` makes of it when it has its turn. -/
theorem settle_admitted (h : s.now = .ofMillis t) (ht : b.turn k = t) (old : Stage) :
    (b.taskAt name k old).settleVerdict b.call (b.guards k) (b.context k) s .admitted
      = (b.task name k .running, s.record (·.recordAdmitted)) := by
  have hw := b.delay_pos
  have hsleep : Timer.after s.now (.ofMillis b.work) = .ofMillis (b.turn k + b.delay) := by
    rw [Timer.after, span_ofMillis, h, Duration.ofMillis_add, ht]
    rfl
  have htime : ¬ Timer.Due (Timer.after s.now (.ofMillis b.work)) s.now := by
    rw [hsleep, h, Timer.Due, Duration.ofMillis_le_iff]
    omega
  have hproceed := Session.proceed_sleep (b.taskAt name k old) b.call (b.guards k)
    (s := s.record (·.recordAdmitted)) htime
  refine Eq.trans hproceed ?_
  rw [show (s.record (·.recordAdmitted)).now = s.now from rfl, hsleep]
  rfl

/-- **A PARKED REQUEST IS LATE**: it leaves the line. -/
theorem parked_late (h : Standing b policy t a c k e s) (hk : k < e) (hl : b.isLate t) :
    Moves b name policy t k s (b.stage k .parked) .ended a c (k + 1) e
      [event name policy k .late] := by
  obtain ⟨g, hg⟩ := dueGuard?_of_late hl k
  rw [← h.now] at hg
  have hw : (s.gate.waiter? k).isSome = true := by
    rw [h.gate.waiter? (Nat.le_refl k) hk]
    rfl
  have hpoll : (b.task name k .parked).poll s
      = (b.task name k .parked).missDeadline b.call
          ({ s with tokens := s.tokens.cancel g.token, gate := s.gate.abandon k }.record
            (·.recordRejected (.timeout true))) := by
    show Task.resume _ b.call (b.guards k) (b.context k) s = _
    simp only [Task.resume, hg, Scene.abandon]
    exact congrArg _ (if_pos hw)
  exact ⟨_, hpoll, ⟨h.now, h.policy, fun hn => absurd hl hn, h.gate.abandon hk⟩, rfl⟩

/-- A later poll of a parked request is up to the gate. -/
theorem poll_parked (name : Nat → String) (k : Nat) (h : Standing b policy t a c d e s)
    (hl : ¬ b.isLate t) :
    (b.task name k .parked).poll s
      = (b.task name k .parked).settleVerdict b.call (b.guards k) (b.context k)
          { s with gate := (s.gate.resume k s.now false).1 } (s.gate.resume k s.now false).2 := by
  have hg := dueGuard?_of_not_late hl k
  rw [← h.now] at hg
  have hover := isOver_context h hl k
  show Task.resume _ b.call (b.guards k) (b.context k) s = _
  simp only [Task.resume, hg, hover]
  rfl

/-- **A PARKED REQUEST HAS ITS TURN**: it runs. -/
theorem parked_admitted (h : Standing b policy t a k k e s) (hk : k < e) (hlt : k - a < b.limit)
    (ha : a ≤ k) (hl : ¬ b.isLate t) (ht : b.turn k = t) :
    Moves b name policy t k s (b.stage k .parked) .running a (k + 1) (k + 1) e [] := by
  obtain ⟨g', hres, hg'⟩ := h.gate.resume_admitted hk hlt ha s.now
  have hpoll := poll_parked name k h hl
  rw [hres] at hpoll
  exact ⟨_, hpoll.trans (settle_admitted (s := { s with gate := g' }) h.now ht _),
    ⟨h.now, h.policy, h.uncancelled, hg'⟩, (List.append_nil _).symm⟩

/-- **A PARKED REQUEST GIVES UP.** -/
theorem parked_expired (h : Standing b policy t a c k e s) (hk : k < e) (hc : c - a = b.limit)
    (hl : ¬ b.isLate t) (hw : b.isWeary t) :
    Moves b name policy t k s (b.stage k .parked) .ended a c (k + 1) e
      [event name policy k (.refused (.timeout false))] := by
  have he : b.backlogWait.expired .zero s.now = true := by
    rw [h.now, expired_eq_isWeary]
    exact hw
  obtain ⟨g', hres, hg'⟩ := h.gate.resume_expired hk hc he
  have hpoll := poll_parked name k h hl
  rw [hres] at hpoll
  refine ⟨_, hpoll, ⟨h.now, h.policy, h.uncancelled, hg'⟩, ?_⟩
  show s.log ++ [_] = s.log ++ [_]
  rw [← h.policy]
  rfl

/-- A parked request waits on. -/
theorem parked_idle (h : Standing b policy t a c d e s) (hd : d ≤ k) (he : k < e)
    (hc : b.limit ≤ c - a) (hl : ¬ b.isLate t) (hw : ¬ b.isWeary t) :
    (b.task name k .parked).poll s = (b.task name k .parked, s) := by
  have hexp : b.backlogWait.expired .zero s.now = false := by
    rw [h.now, expired_eq_isWeary]
    simpa using hw
  rw [poll_parked name k h hl, h.gate.resume_parked hd he hc hexp]
  rfl

/-! ## §4. The first poll of a request. -/

/-- Request `k` before its first poll. -/
def newcomer (b : Burst) (name : Nat → String) (k : Nat) : Task := b.taskAt name k .fresh

/-- A first poll at the start of the clock reaches the guards of the request. -/
theorem arm_newcomer (b : Burst) {ts : Tokens} (ht : b.deadline.isSome → ts.fresh = k) :
    ∃ ts' : Tokens, ts'.cancelled = ts.cancelled ∧ (b.deadline.isSome → ts'.fresh = k + 1)
      ∧ Task.arm .zero b.call.timeouts none ts = ⟨b.guards k, b.context k, ts', false⟩ := by
  cases hd : b.deadline with
  | none =>
      refine ⟨ts, rfl, fun h => by simp at h, ?_⟩
      simp only [call, hd, Option.map_none, Option.toList_none, Task.arm, guards, context]
  | some d =>
      have hfresh : ts.fresh = k := ht (by rw [hd]; rfl)
      have hpos := b.deadline_pos d hd
      have hfired : ¬ Duration.ofMillis d ≤ .zero := by
        show ¬ 1000000 * d ≤ 0
        omega
      refine ⟨{ ts with fresh := k + 1 }, rfl, fun _ => rfl, ?_⟩
      simp only [call, hd, Option.map_some, Option.toList_some, Task.arm, guards, context,
        Duration.zero_add, if_neg hfired, Context.root, Tokens.root, Context.withDeadline, hfresh]

/-- A first poll makes the guards, and is then up to the gate. -/
theorem poll_newcomer (name : Nat → String) (h : Standing b policy 0 a c d e s)
    (ht : b.deadline.isSome → s.tokens.fresh = k) :
    ∃ ts : Tokens, ts.cancelled = [] ∧ (b.deadline.isSome → ts.fresh = k + 1)
      ∧ (b.newcomer name k).poll s
        = (b.newcomer name k).settleVerdict b.call (b.guards k) (b.context k)
            { s with tokens := ts, gate := (s.gate.enter k s.now false).1 }
            (s.gate.enter k s.now false).2 := by
  have hl := not_isLate_zero b
  -- the guard makes a token, which no command cancels
  obtain ⟨ts, hcancel, hfresh, harm⟩ := arm_newcomer b ht
  have hnow : s.now = .zero := h.now
  have hcancel : ts.cancelled = [] := hcancel.trans (h.uncancelled hl)
  have hs : Standing b policy 0 a c d e { s with tokens := ts } :=
    ⟨h.now, h.policy, fun _ => hcancel, h.gate⟩
  have hover := isOver_context hs hl k
  rw [← hnow] at harm
  refine ⟨ts, hcancel, hfresh, ?_⟩
  show Task.enter _ b.call s = _
  have hambient : b.call.ambient = none := rfl
  simp only [Task.enter, hambient, harm, hover, Bool.false_eq_true, if_false]
  rfl

/-- **THE FIRST REQUESTS RUN** at once. -/
theorem newcomer_admitted (name : Nat → String) (h : Standing b policy 0 0 k k k s)
    (ht : b.deadline.isSome → s.tokens.fresh = k) (hk : k < b.limit) :
    ∃ s', (b.newcomer name k).poll s = (b.task name k .running, s')
      ∧ Standing b policy 0 0 (k + 1) (k + 1) (k + 1) s'
      ∧ (b.deadline.isSome → s'.tokens.fresh = k + 1) ∧ s'.log = s.log := by
  obtain ⟨ts, hcancel, hfresh, hpoll⟩ := poll_newcomer name h ht
  obtain ⟨g', henter, hg'⟩ :=
    h.gate.enter_admitted (Nat.zero_le k) hk (Nat.le_add_right b.limit b.backlog) s.now
  have hturn : b.turn k = 0 := by
    rw [turn, Nat.div_eq_of_lt hk, Nat.zero_mul]
  rw [henter] at hpoll
  exact ⟨_, hpoll.trans (settle_admitted (s := { s with tokens := ts, gate := g' }) h.now hturn _),
    ⟨h.now, h.policy, fun _ => hcancel, hg'⟩, hfresh, rfl⟩

/-- **THE NEXT REQUESTS WAIT**, while backlog permits are left. -/
theorem newcomer_parked (name : Nat → String) (h : Standing b policy 0 0 b.limit b.limit k s)
    (ht : b.deadline.isSome → s.tokens.fresh = k) (hl : b.limit ≤ k) (hk : k < b.capacity) :
    ∃ s', (b.newcomer name k).poll s = (b.task name k .parked, s')
      ∧ Standing b policy 0 0 b.limit b.limit (k + 1) s'
      ∧ (b.deadline.isSome → s'.tokens.fresh = k + 1) ∧ s'.log = s.log := by
  obtain ⟨ts, hcancel, hfresh, hpoll⟩ := poll_newcomer name h ht
  have hexp : b.backlogWait.expired .zero .zero = false := by
    have := expired_eq_isWeary b 0
    rw [not_isWeary_zero] at this
    exact this
  obtain ⟨g', henter, hg'⟩ :=
    h.gate.enter_parked hl hl (Nat.sub_zero b.limit) (by omega) (show s.now = .zero from h.now) hexp
  rw [henter] at hpoll
  exact ⟨_, hpoll, ⟨h.now, h.policy, fun _ => hcancel, hg'⟩, hfresh, rfl⟩

/-- **THE REST IS REFUSED.** -/
theorem newcomer_full (name : Nat → String) (h : Standing b policy 0 0 b.limit b.limit b.capacity s)
    (ht : b.deadline.isSome → s.tokens.fresh = k) :
    ∃ s', (b.newcomer name k).poll s = (b.task name k .ended, s')
      ∧ Standing b policy 0 0 b.limit b.limit b.capacity s'
      ∧ (b.deadline.isSome → s'.tokens.fresh = k + 1)
      ∧ s'.log = s.log ++ [event name policy k (.refused .capacity)] := by
  obtain ⟨ts, hcancel, hfresh, hpoll⟩ := poll_newcomer name h ht
  have henter := h.gate.enter_full (by unfold capacity; omega) k s.now
  rw [henter] at hpoll
  refine ⟨_, hpoll, ⟨h.now, h.policy, fun _ => hcancel, h.gate.recordRejected _⟩, hfresh, ?_⟩
  show s.log ++ [_] = s.log ++ [_]
  rw [← h.policy]
  rfl

end

end Burst

end Admission

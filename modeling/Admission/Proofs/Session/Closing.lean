/-
  Admission.Proofs.Session.Closing — how requests to a router are closed.

  A request may be ended at three places: by the inner service, which answers or panics; by the gate,
  which refuses it; or by a deadline guard around both.  And its caller may drop it at any time.  A
  CLOSING says which of these ended a request, and where the request stood at that time.  It is read
  off the session before a move and the one after it.

  An ENTRY is all that one move writes about a request: what becomes of it, what the gate counts, what
  is shown, whether the inner service is called, and the closing.  That every move which concerns a
  request writes one of nine entries is all that is proved of the stations of a poll here; accounts
  and counters follow from the entries alone.

  Main results:
    * `entry_poll`, `entry_abort` — **what one move writes about a request**;
    * `Entry.rejected`, `Entry.admitted` — what the gate counts is what the entry says.
-/
import Admission.Proofs.Session.Orphans

namespace Admission.Session

open Gate (Balanced)

/-! ## §1. Closings. -/

/-- Where a request stands when it is closed. -/
inductive Whence where
  /-- It has never waited at the gate. -/
  | outside
  | parked
  /-- The inner service has been called. -/
  | called
deriving DecidableEq

/-- How a request is closed. -/
inductive Exit where
  /-- The inner service answers. -/
  | answered
  | panicked
  | refused (reason : Reason)
  /-- A guard answers that the deadline has come. -/
  | late
  /-- Its caller drops it. -/
  | dropped
deriving DecidableEq

/-- The end of a request. -/
structure Closing where
  request : Nat
  whence : Whence
  exit : Exit
deriving DecidableEq

/-- How the inner service closes a request. -/
def Exit.ofEnding : Ending → Exit
  | .panic _ => .panicked
  | .value _ | .response _ => .answered

namespace Closing

def isAnswer (e : Closing) : Bool := e.exit == .answered

def isRefusal (reason : Reason) (e : Closing) : Bool := e.exit == .refused reason

/-- A guard or the caller ended the request; neither the gate nor the inner service did. -/
def isCut (e : Closing) : Bool := e.exit == .late || e.exit == .dropped

/-- The request was cut off while it was still parked. -/
def isForsaken (e : Closing) : Bool := e.whence == .parked && e.isCut

def isCalled (e : Closing) : Bool := e.whence == .called

/-- The request was cut off, or its inner service panicked, while this ran. -/
def isBroken (e : Closing) : Bool := e.isCalled && (e.isCut || e.exit == .panicked)

/-- As which refusal the gate counts a closing: a request that is cut off where it is parked counts
as one whose context has ended. -/
def reason? (e : Closing) : Option Reason :=
  match e.exit with
  | .refused reason => some reason
  | .late | .dropped => if e.whence = .parked then some (.timeout true) else none
  | .answered | .panicked => none

end Closing

/-- What a poll of a request comes to first. -/
inductive Station where
  | rests
  | fires
  | asks (v : Verdict)
  | goesOn
deriving DecidableEq

namespace Task

def whence (t : Task) : Whence :=
  match t.stage with
  | .parked _ _ => .parked
  | .running _ _ => .called
  | .fresh | .reporting _ | .finished => .outside

/-- What a poll in this scene comes to first. -/
def station (t : Task) (c : Call) (s : Scene) : Station :=
  match t.stage with
  | .fresh =>
    let a := arm s.now c.timeouts c.ambient s.tokens
    if a.fired then .fires
    else .asks (s.gate.enter t.key s.now (isOver a.context { s with tokens := a.tokens })).2
  | .parked guards context =>
    if (dueGuard? s.now guards).isSome then .fires
    else .asks (s.gate.resume t.key s.now (isOver context s)).2
  | .running guards _ => if (dueGuard? s.now guards).isSome then .fires else .goesOn
  | .reporting _ | .finished => .rests

/-- The closing of a request that a poll in this scene ends. -/
def closing (t : Task) (c : Call) (s : Scene) : Closing :=
  match t.station c s with
  | .fires => ⟨t.key, t.whence, .late⟩
  | .asks (.rejected reason) => ⟨t.key, t.whence, .refused reason⟩
  | _ => ⟨t.key, .called, .ofEnding c.script.ending⟩

/-- The poll of a request in this scene calls the inner service. -/
def isCalled (t : Task) (s : Scene) : Bool :=
  match t.job with
  | .call c => t.station c s == .asks .admitted
  | _ => false

end Task

/-- The closing of request `k`, if this move ends it. -/
def closing? (x : Session) (m : Move) (k : Nat) : Option Closing :=
  match x.tasks[k]?, (x.move m).tasks[k]? with
  | some t, some u =>
    match t.job with
    | .call c =>
      if !t.isFinished && u.isFinished then
        some (if m.polls k then t.closing c x.scene else ⟨t.key, t.whence, .dropped⟩)
      else none
    | _ => none
  | _, _ => none

/-- The closings of a move. -/
def closed (x : Session) (m : Move) : List Closing :=
  (List.range x.tasks.length).filterMap (x.closing? m)

/-- The requests whose inner service a move calls. -/
def called (x : Session) : Move → List Nat
  | .poll k =>
    match x.tasks[k]? with
    | some t => if t.isCalled x.scene then [k] else []
    | none => []
  | _ => []

/-- All closings of a run, oldest first. -/
def closings : Session → List Move → List Closing := trail closed

/-- All requests whose inner service a run calls, oldest first. -/
def callings : Session → List Move → List Nat := trail called

/-! ## §2. The stations of a poll. -/

section Stations

variable {t : Task} {c : Call} {s s0 : Scene} {guards : List Guard} {context : Option Context}
  {v : Verdict}

theorem Asks.station (h : Asks t c s guards context s0 v) : t.station c s = .asks v := by
  cases h with
  | enters hf ha hn hg =>
      unfold Task.station
      simp only [hf, ha, hn, hg, Bool.false_eq_true, if_false]
  | resumes hp hd hg =>
      unfold Task.station
      simp only [hp, hd, hg, Option.isSome_none, Bool.false_eq_true, if_false]

theorem Fires.station (h : Fires t c s s0) : t.station c s = .fires := by
  cases h with
  | atOnce hf ha hy =>
      unfold Task.station
      simp only [hf, ha, hy, if_true]
  | parked hp hd | running hp hd =>
      unfold Task.station
      simp only [hp, hd, Option.isSome_some, if_true]

theorem station_of_running {todo : List Action} (hp : t.stage = .running guards todo)
    (hd : Task.dueGuard? s.now guards = none) : t.station c s = .goesOn := by
  unfold Task.station
  simp only [hp, hd, Option.isSome_none, Bool.false_eq_true, if_false]

/-- A request asks wherever that is its station. -/
theorem exists_asks_of_station (h : t.station c s = .asks v) :
    ∃ guards context s0, Asks t c s guards context s0 v := by
  unfold Task.station at h
  split at h
  next hst =>
    simp only at h
    split at h
    · cases h
    next hn =>
      have hv := Station.asks.inj h
      exact ⟨_, _, _, .enters hst rfl (by simpa using hn) (Prod.ext rfl hv)⟩
  next guards context hst =>
    split at h
    · cases h
    next hd =>
      have hv := Station.asks.inj h
      exact ⟨_, _, _, .resumes hst (by simpa using hd) (Prod.ext rfl hv)⟩
  next => split at h <;> cases h
  next => cases h
  next => cases h

theorem isCalled_of_station (hc : t.job = .call c) :
    t.isCalled s = (t.station c s == .asks .admitted) := by
  unfold Task.isCalled
  rw [hc]

end Stations

/-! ## §3. Entries. -/

/-- The inner service of the request has not been called. -/
def Task.Unserved (t : Task) : Prop :=
  t.stage = .fresh ∨ ∃ guards context, t.stage = .parked guards context

/-- What the gate counts when the future of the request is dropped. -/
def Task.forsaken (t : Task) (n : Counters) : Counters :=
  if t.isParked then n.recordRejected (.timeout true) else n

/-- **WHAT ONE MOVE WRITES ABOUT A REQUEST** which it polls or drops, where the gate has counted `n`:
what becomes of the request, what the gate has counted then, the events that the request shows,
whether the inner service is called, and the closing. -/
inductive Entry (policy : Policy) (t : Task) (c : Call) (n : Counters) :
    Task → Counters → List Event → Bool → Option Closing → Prop where
  | rests : Entry policy t c n t n [] false none
  | parks {guards : List Guard} {context : Option Context} (h : t.Unserved) :
      Entry policy t c n { t with stage := .parked guards context } n [] false none
  | refused (h : t.Unserved) (reason : Reason) :
      Entry policy t c n t.finish (n.recordRejected reason)
        [Task.refusalEvent t.name c.reply policy reason] false
        (some ⟨t.key, t.whence, .refused reason⟩)
  /-- A guard fires. -/
  | late (h : t.stage ≠ .finished) :
      Entry policy t c n t.finish (t.forsaken n) [Task.deadlineEvent t.name c.reply] false
        (some ⟨t.key, t.whence, .late⟩)
  /-- The caller drops the request. -/
  | dropped (h : t.stage ≠ .finished) :
      Entry policy t c n t.finish (t.forsaken n) [] false (some ⟨t.key, t.whence, .dropped⟩)
  | begins {guards : List Guard} {left : List Action} (h : t.Unserved) :
      Entry policy t c n { t with stage := .running guards left } n.recordAdmitted
        (opening t.name c.script.actions) true none
  /-- The inner service is called and ends in the same poll. -/
  | serves (h : t.Unserved) :
      Entry policy t c n t.finish n.recordAdmitted (opening t.name c.script.actions
        ++ [Task.endingEvent t.name c.reply c.script.ending]) true
        (some ⟨t.key, .called, .ofEnding c.script.ending⟩)
  | goesOn {guards : List Guard} {left : List Action} (h : t.isRunning = true) :
      Entry policy t c n { t with stage := .running guards left } n [] false none
  | ends (h : t.isRunning = true) :
      Entry policy t c n t.finish n [Task.endingEvent t.name c.reply c.script.ending] false
        (some ⟨t.key, .called, .ofEnding c.script.ending⟩)

section Polls

variable {t : Task} {c : Call} {s s0 : Scene} {guards : List Guard} {context : Option Context}
  {v : Verdict} {out : Task × Scene}

theorem Asks.unserved (h : Asks t c s guards context s0 v) : t.Unserved := by
  cases h with
  | enters hf => exact .inl hf
  | resumes hp => exact .inr ⟨_, _, hp⟩

theorem Fires.not_finished (h : Fires t c s s0) : t.stage ≠ .finished := by
  intro he
  cases h with
  | atOnce hst | parked hst | running hst =>
      rw [hst] at he
      cases he

theorem Asks.isCalled_eq (h : Asks t c s guards context s0 v) (hc : t.job = .call c) :
    t.isCalled s = (v == .admitted) := by
  rw [isCalled_of_station hc, h.station]
  cases v <;> rfl

theorem Fires.forsaken_eq (h : Fires t c s s0) (hb : Balanced s.gate 0 0) (hp : Placed s.gate t) :
    s0.gate.counters = t.forsaken s.gate.counters := by
  unfold Task.forsaken
  rcases h.counters hb hp with ⟨⟨guards, context, hst⟩, hcount⟩ | ⟨hno, hcount⟩
  · rw [hcount, isParked_iff.mpr ⟨guards, context, hst⟩, if_pos rfl]
  · rw [hcount, isParked_of_stage hno, if_neg Bool.false_ne_true]

/-- The closing of a poll after which the request is in this state. -/
def Task.closingAt (t u : Task) (c : Call) (s : Scene) : Option Closing :=
  if !t.isFinished && u.isFinished then some (t.closing c s) else none

theorem closingAt_of_open {u : Task} (h : u.isFinished = false) : t.closingAt u c s = none := by
  unfold Task.closingAt
  rw [h, Bool.and_false]
  rfl

theorem isFinished_of_ne (h : t.stage ≠ .finished) : t.isFinished = false := by
  rw [Bool.eq_false_iff]
  exact fun hf => h (isFinished_iff.mp hf)

theorem closingAt_finish (h : t.stage ≠ .finished) :
    t.closingAt t.finish c s = some (t.closing c s) := by
  unfold Task.closingAt
  rw [isFinished_of_ne h]
  rfl

/-- **A HANDLER THAT ACTS** has just been called, or it goes on. -/
theorem Acts.entry {todo : List Action} (h : Acts t c s guards todo s0) (hb : Balanced s.gate 0 0)
    (hp : Placed s.gate t) (hf : Fit t) (hc : t.job = .call c) (policy : Policy) :
    ∃ new, (t.proceed c guards todo s0).2.log = s.log ++ new
      ∧ Entry policy t c s.gate.counters (t.proceed c guards todo s0).1
          (t.proceed c guards todo s0).2.gate.counters new (t.isCalled s)
          (t.closingAt (t.proceed c guards todo s0).1 c s) := by
  obtain ⟨hb0, -, -, hq, -⟩ := h.effect hb hp hf hc
  have hlog := h.log_eq
  have hopen := h.not_finished
  have hpro := progress_proceed t c guards s0 hq
  generalize t.proceed c guards todo s0 = out at hpro ⊢
  cases h with
  | @begins context s1 hask hr =>
      have hcount : s1.gate.counters = s.gate.counters.recordAdmitted := hask.counters hp
      have hexit : t.closing c s = ⟨t.key, .called, .ofEnding c.script.ending⟩ := by
        unfold Task.closing
        rw [hask.station]
      rw [hask.isCalled_eq hc]
      cases hpro with
      | suspended =>
          refine ⟨opening t.name c.script.actions, congrArg (· ++ _) hlog, ?_⟩
          rw [closingAt_of_open rfl]
          show Entry policy t c _ _ s1.gate.counters _ true none
          rw [hcount]
          exact .begins hask.unserved
      | @ended permits =>
          refine ⟨_, (congrArg (· ++ _ ++ _) hlog).trans (List.append_assoc _ _ _), ?_⟩
          rw [closingAt_finish hopen, hexit]
          show Entry policy t c _ _ (s1.gate.discard t.key).counters _ true _
          rw [show (s1.gate.discard t.key).counters = _ from hb0.counters_discard t.key]
          show Entry policy t c _ _ s1.gate.counters _ true _
          rw [hcount]
          exact .serves hask.unserved
  | goesOn hst hd =>
      have hrun : t.isRunning = true := Task.isRunning_iff.mpr ⟨_, _, hst⟩
      have hstation := station_of_running (c := c) hst hd
      have hcalled : t.isCalled s = false := by
        rw [isCalled_of_station hc, hstation]
        rfl
      have hexit : t.closing c s = ⟨t.key, .called, .ofEnding c.script.ending⟩ := by
        unfold Task.closing
        rw [hstation]
      -- it has announced itself before
      have hquiet : opening t.name todo = [] := opening_of_notMem (hf.running _ _ hst).1
      rw [hcalled]
      cases hpro with
      | suspended =>
          refine ⟨opening t.name todo, rfl, ?_⟩
          rw [closingAt_of_open rfl, hquiet]
          exact .goesOn hrun
      | @ended permits =>
          refine ⟨opening t.name todo ++ [_], List.append_assoc _ _ _, ?_⟩
          rw [closingAt_finish hopen, hexit, hquiet]
          show Entry policy t c _ _ (s.gate.discard t.key).counters _ _ _
          rw [hb.counters_discard t.key]
          exact .ends hrun

theorem isCalled_of_rests (hc : t.job = .call c) (h : t.station c s = .rests) :
    t.isCalled s = false := by
  rw [isCalled_of_station hc, h]
  rfl

/-- **WHAT A POLL WRITES ABOUT A REQUEST.** -/
theorem entry_poll (hb : Balanced s.gate 0 0) (hp : Placed s.gate t) (hf : Fit t)
    (hc : t.job = .call c) (hr : c.reply ≠ .ticket) :
    ∃ new, (t.poll s).2.log = s.log ++ new
      ∧ Entry s.policy t c s.gate.counters (t.poll s).1 (t.poll s).2.gate.counters new
          (t.isCalled s) (t.closingAt (t.poll s).1 c s) := by
  have hturn := turn_poll hc s
  generalize t.poll s = out at hturn ⊢
  -- every turn of the request is one entry: what it counts, shows and closes
  cases hturn with
  | idle hi =>
      refine ⟨[], (List.append_nil _).symm, ?_⟩
      have hrests : t.station c s = .rests := by
        unfold Task.station
        rcases hi with hi | ⟨next, hi⟩ <;> rw [hi]
      have hnone : t.closingAt t c s = none := by
        unfold Task.closingAt
        rw [Bool.not_and_self]
        rfl
      rw [isCalled_of_rests hc hrests, hnone]
      exact .rests
  | @late s0 hfire =>
      refine ⟨[_], congrArg (· ++ [_]) hfire.log_eq, ?_⟩
      have hcalled : t.isCalled s = false := by
        rw [isCalled_of_station hc, hfire.station]
        rfl
      have hexit : t.closing c s = ⟨t.key, t.whence, .late⟩ := by
        unfold Task.closing
        rw [hfire.station]
      show Entry s.policy t c _ t.finish s0.gate.counters _ _ (t.closingAt t.finish c s)
      rw [hcalled, closingAt_finish hfire.not_finished, hexit, hfire.forsaken_eq hb hp]
      exact .late hfire.not_finished
  | @parks guards context s0 hask =>
      refine ⟨[], hask.log_eq.trans (List.append_nil _).symm, ?_⟩
      rw [hask.isCalled_eq hc, closingAt_of_open rfl, hask.counters hp]
      exact .parks hask.unserved
  | @refused guards context s0 reason hask =>
      have hexit : t.closing c s = ⟨t.key, t.whence, .refused reason⟩ := by
        unfold Task.closing
        rw [hask.station]
      have hcount := hask.counters hp
      have hcalled := hask.isCalled_eq hc
      have hunserved := hask.unserved
      have hopen := hask.not_finished
      obtain ⟨gate, tokens, rfl⟩ := hask.exists_eq
      refine ⟨[_], rfl, ?_⟩
      show Entry s.policy t c _ t.finish gate.counters _ _ (t.closingAt t.finish c s)
      rw [hcalled, closingAt_finish hopen, hexit,
        show gate.counters = s.gate.counters.recordRejected reason from hcount]
      exact .refused hunserved reason
  | keeps _ hr' => exact absurd hr' hr
  | acts hact => exact hact.entry hb hp hf hc s.policy

theorem finish_abort (t : Task) (s : Scene) : (t.abort s).1 = t.finish := by
  unfold Task.abort
  split <;> rfl

/-- **WHAT A DROP WRITES ABOUT A REQUEST** that has not ended. -/
theorem entry_abort (hb : Balanced s.gate 0 0) (hp : Placed s.gate t) (h : t.stage ≠ .finished)
    (policy : Policy) :
    Entry policy t c s.gate.counters (t.abort s).1 (t.abort s).2.gate.counters [] false
      (some ⟨t.key, t.whence, .dropped⟩) := by
  have hcount : (t.abort s).2.gate.counters = t.forsaken s.gate.counters := by
    unfold Task.abort Task.forsaken
    cases hst : t.stage with
    | parked guards context =>
        obtain ⟨metrics, he⟩ := exists_eq_abandon s t.key
        rw [isParked_iff.mpr ⟨guards, context, hst⟩]
        show (s.abandon t.key).gate.counters = _
        rw [he]
        exact Gate.counters_abandon_of_mem (hp.parked guards context hst)
    | running guards todo =>
        rw [isParked_of_stage fun guards context hst' => by rw [hst] at hst'; cases hst']
        exact hb.counters_discard t.key
    | fresh | reporting | finished =>
        rw [isParked_of_stage fun guards context hst' => by rw [hst] at hst'; cases hst']
        rfl
  rw [finish_abort, hcount]
  exact .dropped h

end Polls

/-! ## §4. What entries count. -/

section Counts

variable {policy : Policy} {t u : Task} {c : Call} {n n' : Counters} {es : List Event} {b : Bool}
  {e? : Option Closing}

theorem isRunning_of_stage {stage : Stage} (hst : t.stage = stage)
    (h : ∀ guards todo, stage ≠ .running guards todo) : t.isRunning = false := by
  rw [Bool.eq_false_iff]
  intro hr
  obtain ⟨guards, todo, hrun⟩ := Task.isRunning_iff.mp hr
  exact h guards todo (hst.symm.trans hrun)

theorem whence_eq_parked_iff : t.whence = .parked ↔ t.isParked = true := by
  unfold Task.whence Task.isParked
  cases t.stage <;> simp

theorem admitted_forsaken (t : Task) (n : Counters) : (t.forsaken n).admitted = n.admitted := by
  unfold Task.forsaken
  split <;> rfl

/-- **THE GATE COUNTS AS ADMITTED** whose inner service is called. -/
theorem Entry.admitted (h : Entry policy t c n u n' es b e?) :
    n'.admitted = n.admitted + b.toNat := by
  cases h with
  | rests | parks | goesOn | ends => rfl
  | refused _ reason => exact Gate.admitted_recordRejected n reason
  | late | dropped => exact admitted_forsaken t n
  | begins | serves => rfl

theorem reason?_ofEnding (k : Nat) (whence : Whence) (ending : Ending) :
    Closing.reason? ⟨k, whence, .ofEnding ending⟩ = none := by
  cases ending <;> rfl

/-- A request that is cut off counts as cancelled exactly where it is parked. -/
theorem rejected_forsaken (t : Task) (n : Counters) {e : Closing} (he : e.isCut = true)
    (hw : e.whence = t.whence) (reason : Reason) :
    (t.forsaken n).rejected reason
      = n.rejected reason + [e].countP fun e => e.reason? = some reason := by
  have hreason : e.reason? = if t.isParked = true then some (.timeout true) else none := by
    obtain ⟨k, whence, exit⟩ := e
    subst hw
    cases exit with
    | late | dropped => exact if_congr whence_eq_parked_iff rfl rfl
    | answered | panicked | refused => cases he
  rw [List.countP_singleton, hreason]
  unfold Task.forsaken
  cases t.isParked with
  | false => rfl
  | true =>
      simp only [if_true, Option.some.injEq, decide_eq_true_eq]
      exact Gate.rejected_recordRejected n (.timeout true) reason

/-- **THE GATE COUNTS A REFUSAL** for each closing that counts as one. -/
theorem Entry.rejected (h : Entry policy t c n u n' es b e?) (reason : Reason) :
    n'.rejected reason = n.rejected reason
      + e?.toList.countP fun e => e.reason? = some reason := by
  have hserved : [(⟨t.key, .called, .ofEnding c.script.ending⟩ : Closing)].countP
      (fun e => e.reason? = some reason) = 0 := by
    rw [List.countP_singleton, reason?_ofEnding]
    rfl
  cases h with
  | rests | parks | goesOn => rfl
  | refused _ r =>
      rw [Option.toList_some, List.countP_singleton]
      simp only [Closing.reason?, Option.some.injEq, decide_eq_true_eq]
      exact Gate.rejected_recordRejected n r reason
  | late | dropped => exact rejected_forsaken t n rfl rfl reason
  | begins => exact Gate.rejected_recordAdmitted n reason
  | serves =>
      rw [Option.toList_some, hserved]
      exact Gate.rejected_recordAdmitted n reason
  | ends =>
      rw [Option.toList_some, hserved]
      rfl

end Counts

/-! ## §5. What a move closes, and whom it calls. -/

section Closings

variable {x : Session} {m : Move} {k : Nat} {t u : Task} {c : Call}

theorem closing?_of_call (hk : x.tasks[k]? = some t) (hu : (x.move m).tasks[k]? = some u)
    (hc : t.job = .call c) : x.closing? m k = if !t.isFinished && u.isFinished then
      some (if m.polls k then t.closing c x.scene else ⟨t.key, t.whence, .dropped⟩) else none := by
  unfold closing?
  rw [hk, hu]
  simp only [hc]

theorem closing?_of_aside (hk : x.tasks[k]? = some t) (hj : ∀ c, t.job ≠ .call c) (m : Move) :
    x.closing? m k = none := by
  unfold closing?
  rw [hk]
  cases (x.move m).tasks[k]? with
  | none => rfl
  | some u =>
      cases hjob : t.job with
      | call c => exact absurd hjob (hj c)
      | free | watch | report => simp only [hjob]

theorem closing?_of_none (hk : x.tasks[k]? = none) (m : Move) : x.closing? m k = none := by
  unfold closing?
  rw [hk]

/-- A request that is as it was has not been closed. -/
theorem closing?_of_same (h : (x.move m).tasks[k]? = x.tasks[k]?) : x.closing? m k = none := by
  cases hk : x.tasks[k]? with
  | none => exact closing?_of_none hk m
  | some t =>
      rcases call_or_not t with ⟨c, hc⟩ | hj
      · rw [closing?_of_call hk (h.trans hk) hc, Bool.not_and_self]
        rfl
      · exact closing?_of_aside hk hj m

theorem request_of_closing? (h : x.Sound) {e : Closing} (he : x.closing? m k = some e) :
    e.request = k := by
  cases hk : x.tasks[k]? with
  | none =>
      rw [closing?_of_none hk] at he
      cases he
  | some t =>
      have hkey := h.keyed k t hk
      unfold closing? at he
      rw [hk] at he
      split at he
      next t' u ht hu =>
        cases ht
        split at he
        · split at he
          · cases he
            split
            · unfold Task.closing
              split <;> exact hkey
            · exact hkey
          · cases he
        · cases he
      next => cases he

theorem filterMap_range {α : Type} {n k : Nat} (hk : k < n) {f : Nat → Option α}
    (hf : ∀ j, j ≠ k → f j = none) : (List.range n).filterMap f = (f k).toList := by
  obtain ⟨pre, post, he⟩ := List.append_of_mem (List.mem_range.mpr hk)
  have hnodup := he ▸ (List.nodup_range : (List.range n).Nodup)
  have hpre : pre.filterMap f = [] := by
    refine List.filterMap_eq_nil_iff.mpr fun j hj => hf j ?_
    rintro rfl
    exact (List.nodup_append.mp hnodup).2.2 j hj j List.mem_cons_self rfl
  have hpost : post.filterMap f = [] := by
    refine List.filterMap_eq_nil_iff.mpr fun j hj => hf j ?_
    rintro rfl
    exact (List.nodup_cons.mp (List.nodup_append.mp hnodup).2.1).1 hj
  rw [he, List.filterMap_append, hpre, List.nil_append, List.filterMap_cons, hpost]
  cases f k <;> rfl

/-- Where a move concerns one task at most, it closes that one at most. -/
theorem closed_of_one (hk : x.tasks[k]? = some t)
    (hsame : ∀ j, j ≠ k → (x.move m).tasks[j]? = x.tasks[j]?) :
    x.closed m = (x.closing? m k).toList :=
  filterMap_range (List.getElem?_eq_some_iff.mp hk).1 fun j hj => closing?_of_same (hsame j hj)

theorem closed_of_same
    (hsame : ∀ (j : Nat) t, x.tasks[j]? = some t → (x.move m).tasks[j]? = some t) :
    x.closed m = [] := by
  refine List.filterMap_eq_nil_iff.mpr fun j hj => ?_
  have ht := List.getElem?_eq_getElem (List.mem_range.mp hj)
  exact closing?_of_same ((hsame j _ ht).trans ht.symm)

theorem filter_closing? (h : x.Sound) (m : Move) (j k : Nat) :
    (x.closing? m j).filter (·.request == k) = if j = k then x.closing? m j else none := by
  cases he : x.closing? m j with
  | none => exact (ite_self none).symm
  | some e =>
      rw [Option.filter_some, request_of_closing? h he]
      exact if_congr beq_iff_eq rfl rfl

/-- The closings of one request among those of a move. -/
theorem filter_closed (h : x.Sound) (m : Move) (k : Nat) :
    (x.closed m).filter (·.request == k) = (x.closing? m k).toList := by
  unfold closed
  rw [List.filter_filterMap]
  simp only [filter_closing? h]
  by_cases hlt : k < x.tasks.length
  · rw [filterMap_range hlt fun j hj => if_neg hj, if_pos rfl]
  · rw [closing?_of_none (List.getElem?_eq_none (by omega)), Option.toList_none]
    refine List.filterMap_eq_nil_iff.mpr fun j hj => if_neg ?_
    have hj := List.mem_range.mp hj
    omega

theorem called_poll (hk : x.tasks[k]? = some t) :
    x.called (.poll k) = if t.isCalled x.scene then [k] else [] := by
  unfold called
  simp only [hk]

theorem called_poll_of_none (hk : x.tasks[k]? = none) : x.called (.poll k) = [] := by
  unfold called
  simp only [hk]

theorem called_of_not_polls (hm : ∀ k, m.polls k = false) : x.called m = [] := by
  cases m with
  | poll j => exact absurd ((polls_iff.mpr rfl).symm.trans (hm j)) nofun
  | drop | tell | advance => rfl

theorem notMem_called (hm : m.polls k = false) : k ∉ x.called m := by
  rcases poll_or_not m with ⟨j, rfl⟩ | hnot
  · cases hj : x.tasks[j]? with
    | none =>
        rw [called_poll_of_none hj]
        exact List.not_mem_nil
    | some t =>
        rw [called_poll hj]
        intro hmem
        split at hmem
        · rw [List.mem_singleton.mp hmem, polls_iff.mpr rfl] at hm
          cases hm
        · cases hmem
  · rw [called_of_not_polls hnot]
    exact List.not_mem_nil

theorem count_called_poll (hk : x.tasks[k]? = some t) :
    (x.called (.poll k)).count k = (t.isCalled x.scene).toNat
      ∧ (x.called (.poll k)).length = (t.isCalled x.scene).toNat := by
  rw [called_poll hk]
  cases t.isCalled x.scene <;> simp

theorem isCalled_of_aside (hj : ∀ c, t.job ≠ .call c) (s : Scene) : t.isCalled s = false := by
  unfold Task.isCalled
  cases hjob : t.job with
  | call c => exact absurd hjob (hj c)
  | free | watch | report => rfl

end Closings

end Admission.Session

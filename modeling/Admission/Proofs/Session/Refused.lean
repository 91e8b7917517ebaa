/-
  Admission.Proofs.Session.Refused — from settings to the answer that a refused client reads.

  A refusal goes through five hands before its client reads it, and its flag is found at the gate, by
  what came first.  Here the hands are put together, over every run: what settings promise of a
  refusal is what each refusal that is returned says; its flag says whether the request's context had
  ended; and the advice is asked once for each, and for nobody else.

  Main results:
    * `Sound.returned_of_refused` — no refusal is seen that was not returned;
    * `refusals_as_configured` — **from settings to the answers of all refusals**.
-/
import Admission.Proofs.Http.Refusal
import Admission.Proofs.Session.Advice
import Admission.Server

namespace Admission.Session

open Http (Response)
open Config (GateSettings)

/-! ## §1. Refusals that are seen. -/

/-- No move but a poll shows anything. -/
theorem log_of_not_polls (x : Session) {m : Move} (hm : ∀ k, m.polls k = false) :
    (x.move m).scene.log = x.scene.log := by
  have habort : ∀ (t : Task) (s : Scene), (t.abort s).2.log = s.log := by
    intro t s
    unfold Task.abort
    split
    · obtain ⟨metrics, he⟩ := exists_eq_abandon s t.key
      rw [he]
    · rfl
    · rfl
  rcases order_or_tick x hm with ho | ⟨ms, hx⟩
  · generalize x.move m = y at ho
    cases ho with
    | @dropped k t hk =>
        rw [onTask_of_some hk]
        exact habort t x.scene
    | idle | came | contextMade | cancelled | permitted | released | discarded => rfl
  · rw [hx]
    rfl

/-- The refusal of a request, as its caller sees it. -/
def Event.isRefused : Event → Bool
  | .refused _ _ => true
  | _ => false

theorem isRefused_deadlineEvent (name : String) (reply : Reply) :
    (Task.deadlineEvent name reply).isRefused = false := by
  cases reply <;> rfl

theorem isRefused_endingEvent (name : String) (reply : Reply) (ending : Ending) :
    (Task.endingEvent name reply ending).isRefused = false := by
  cases ending with
  | value | panic => rfl
  | response => cases reply <;> rfl

theorem isRefused_opening {name : String} {todo : List Action} {e : Event}
    (h : e ∈ opening name todo) : e.isRefused = false := by
  unfold opening at h
  split at h
  · rw [List.mem_singleton.mp h]
    rfl
  · cases h

section Moves

variable {x : Session} {name : String} {r : Rejection}

/-- **WHO SEES A REFUSAL** in a poll, to him it is returned there. -/
theorem Sound.returned_of_refused (h : x.Sound) {m : Move} (hm : .refused name r ∈ x.shown m) :
    ∃ e, x.returned? m = some e ∧ e.name = name ∧ e.reply = .value
      ∧ r = x.scene.policy.reject e.reason := by
  have hother : ∀ d : Event, d.isRefused = false → .refused name r ≠ d := by
    rintro d hd rfl
    cases hd
  rcases poll_or_not m with ⟨k, rfl⟩ | hnot
  · cases hk : x.tasks[k]? with
    | none =>
        have hidle : x.move (.poll k) = x := onTask_of_none hk Task.poll
        have hnil : x.shown (.poll k) = [] := shown_of_log (by rw [hidle, List.append_nil])
        rw [hnil] at hm
        cases hm
    | some t =>
        rcases call_or_not t with ⟨c, hc⟩ | hj
        · have hshows := h.shows hk hc
          generalize x.shown (.poll k) = es at hm hshows
          -- of all that a call shows, only the refusal of one that takes values is such an event
          cases hshows with
          | silent => cases hm
          | late => exact absurd (List.mem_singleton.mp hm) (hother _ (isRefused_deadlineEvent _ _))
          | keeps => exact absurd (List.mem_singleton.mp hm) (hother _ rfl)
          | @refused guards context s0 reason hask =>
              have hm := List.mem_singleton.mp hm
              cases hr : c.reply with
              | ticket | http =>
                  rw [hr] at hm
                  exact absurd hm (hother _ rfl)
              | value =>
                  rw [hr] at hm
                  cases hm
                  have hreturned : t.returned? x.scene = some ⟨t.name, c.reply, reason⟩ :=
                    returned?_eq_some_iff.mpr ⟨c, guards, context, s0, hc, hask,
                      by rw [hr]; nofun, rfl⟩
                  refine ⟨⟨t.name, c.reply, reason⟩, ?_, rfl, hr, rfl⟩
                  show x.tasks[k]?.bind _ = _
                  rw [hk]
                  exact hreturned
          | acts =>
              rcases List.mem_append.mp hm with hm | hm
              · exact absurd rfl (hother _ (isRefused_opening hm))
              · split at hm
                · exact absurd (List.mem_singleton.mp hm) (hother _ (isRefused_endingEvent _ _ _))
                · cases hm
        · -- no other task shows a refusal
          have haside := aside_poll hj x.scene
          have hscene := scene_move_poll hk
          generalize t.poll x.scene = out at haside hscene
          have hnew : ∀ es, out.2.log = x.scene.log ++ es → .refused name r ∈ es := by
            intro es hlog
            rwa [shown_of_log (by rw [hscene]; exact hlog)] at hm
          cases haside with
          | still | leaves | reports => cases hnew [] (List.append_nil _).symm
          | answers | sees =>
              exact absurd (List.mem_singleton.mp (hnew [_] rfl)) (hother _ rfl)
  · have hnil : x.shown m = [] :=
      shown_of_log (by rw [log_of_not_polls x hnot, List.append_nil])
    rw [hnil] at hm
    cases hm

/-- Every refusal in the log was returned in the run. -/
theorem Sound.returned_of_log (h : x.Sound) (hx : x.scene.log = []) (ms : List Move)
    (hm : .refused name r ∈ (x.run ms).scene.log) :
    ∃ e ∈ returnedBy x ms, e.name = name ∧ e.reply = .value
      ∧ r = x.scene.policy.reject e.reason := by
  induction ms using List.reverseRecOn with
  | nil =>
      rw [run_nil, hx] at hm
      cases hm
  | append_singleton ms m ih =>
      have hreturned : returnedBy x (ms ++ [m])
          = returnedBy x ms ++ ((x.run ms).returned? m).toList := trail_concat _ x ms m
      rw [run_concat, log_move (x.run ms) m] at hm
      rw [hreturned]
      rcases List.mem_append.mp hm with hm | hm
      · obtain ⟨e, he, hrest⟩ := ih hm
        exact ⟨e, List.mem_append_left _ he, hrest⟩
      · obtain ⟨e, he, hname, hreply, hreject⟩ := (h.run ms).returned_of_refused hm
        rw [policy_run] at hreject
        refine ⟨e, List.mem_append_right _ ?_, hname, hreply, hreject⟩
        rw [he]
        exact List.mem_singleton_self e

end Moves

/-! ## §2. Refusals that are returned. -/

/-- **THE ANSWER OF A COUNSEL** to a refusal that is returned: the refusal, with what the counsel said
to its flag, and the header, which tells the whole seconds of it. -/
structure Advised {σ : Type} (counsel : Option (Counsel σ)) (o : Options) (e : Returned) (books : σ)
    (r : Rejection) : Prop where
  reason : r.reason = e.reason
  status : r.status = o.status
  body : r.body = GateSettings.lineOf e.reason
  retryAfter : r.retryAfter = counsel.map fun f => (f e.flag books).1
  header : (Response.ofRejection r).header? "retry-after"
    = counsel.map fun f => toString ((f e.flag books).1.nanos / 1000000000)

theorem advised_rejectBy {σ : Type} (counsel : Option (Counsel σ)) (o : Options) (e : Returned)
    (books : σ) : Advised counsel o e books (rejectBy counsel o.status e.reason books).1 := by
  have hbody : ∀ (reason : Reason) (d : Option Duration),
      (Rejection.mk reason o.status reason.message d).body = GateSettings.lineOf reason := by
    intro reason d
    cases reason <;> rfl
  cases counsel with
  | none => exact ⟨rfl, rfl, hbody _ _, rfl, header?_ofRejection_retryAfter _⟩
  | some f => exact ⟨rfl, rfl, hbody _ _, rfl, header?_ofRejection_retryAfter _⟩

/-- **REFUSALS ARE GIVEN OUT** over a run from `x₀` with options `o`, whose advice is any function. -/
structure GivenOut (o : Options) (x₀ : Session) (ms : List Move) : Prop where
  /-- A refusal is all that the poll shows which returns it. -/
  shown : ∀ m e, (x₀.run ms).returned? m = some e →
    (x₀.run ms).shown m = [e.event ((Policy.ofOptions o).reject e.reason)]
  /-- No refusal is seen that was not returned. -/
  refused : ∀ name r, .refused name r ∈ (x₀.run ms).scene.log → ∃ e ∈ returnedBy x₀ ms,
    e.name = name ∧ e.reply = .value ∧ r = (Policy.ofOptions o).reject e.reason
  /-- A refusal is returned to a request that asks at the gate, and its flag says whether the context
  with which it asks has ended; without guards around it that is the context it came with. -/
  flag : ∀ k e, (x₀.run ms).returned? (.poll k) = some e → ∃ t c guards context s0,
    (x₀.run ms).tasks[k]? = some t ∧ t.job = .call c
      ∧ Asks t c (x₀.run ms).scene guards context s0 (.rejected e.reason)
      ∧ (c.timeouts = [] → context = c.ambient)
      ∧ (e.flag = true ↔ Task.isOver context s0 = true) ∧ e = ⟨t.name, c.reply, e.reason⟩
  /-- To one request one refusal at most is returned, and none if it ever gets a ticket. -/
  once : ∀ (k : Nat) (t : Task) (c : Call), (x₀.run ms).tasks[k]? = some t → t.job = .call c →
    TurnedAway t c ((admissions x₀ ms).count k) (trail (returnedTo k) x₀ ms)
  /-- None is returned to a request that is dropped. -/
  dropped : ∀ before m after k t u c, ms = before ++ m :: after → m.polls k = false →
    (x₀.run before).tasks[k]? = some t → t.job = .call c → t.stage ≠ .finished →
    (x₀.run (before ++ [m])).tasks[k]? = some u → u.stage = .finished →
    trail (returnedTo k) x₀ ms = []
  /-- Whatever books a counsel keeps, the run takes the same course, and the counsel is asked once
  for each refusal that is returned, with its flag. -/
  course : ∀ {σ : Type} (counsel : Option (Counsel σ)) (books : σ), ∃ log,
    runBy counsel (x₀, books) ms = ((x₀.run ms).withLog log,
      ((returnedBy x₀ ms).map (·.flag)).foldl (ask counsel) books)
  /-- The refusal that is returned next says what the counsel says then. -/
  advised : ∀ {σ : Type} (counsel : Option (Counsel σ)) (books : σ) m e,
    (x₀.run ms).returned? m = some e → ∃ r,
      Advised counsel o e (runBy counsel (x₀, books) ms).2 r
        ∧ (runBy counsel (x₀, books) (ms ++ [m])).1.scene.log
          = (runBy counsel (x₀, books) ms).1.scene.log ++ [e.event r]
  /-- The advice of the options is a counsel that keeps no books. -/
  pure : runBy (counselOf (Policy.ofOptions o)) (x₀, ()) ms = (x₀.run ms, ())

theorem givenOut {o : Options} {g : Gate} (h : Gate.ofOptions o = .ok g) (site : Site)
    (metrics : Option Metrics) (ms : List Move) :
    GivenOut o (ofGate g (.ofOptions o) site metrics) ms := by
  have hstart := ofGate_sound h (.ofOptions o) site metrics
  have hpolicy : (ofGate g (.ofOptions o) site metrics).scene.policy = .ofOptions o := rfl
  have htasks : (ofGate g (.ofOptions o) site metrics).tasks = [] := rfl
  have hlog : (ofGate g (.ofOptions o) site metrics).scene.log = [] := rfl
  generalize ofGate g (.ofOptions o) site metrics = x₀ at hstart hpolicy htasks hlog ⊢
  constructor
  case shown =>
    intro m e he
    rw [shown_of_returned he, policy_run, hpolicy]
  case refused =>
    intro name r hm
    rw [← hpolicy]
    exact hstart.returned_of_log hlog ms hm
  case flag =>
    intro k e he
    obtain ⟨k', t, hpoll, hk, ht⟩ := exists_of_returned he
    cases hpoll
    obtain ⟨c, guards, context, s0, hc, hask, -, heq⟩ := returned?_eq_some_iff.mp ht
    have hmem := List.mem_of_getElem? hk
    refine ⟨t, c, guards, context, s0, hk, hc, hask, fun hn => ?_,
      isAmbient_iff hask ((hstart.run ms).placed t hmem), heq⟩
    obtain ⟨now, ts, a, ha, -, -, rfl⟩ := hask.equipped (equipped_run htasks ms t hmem) hc
    rw [← ha, hn]
    rfl
  case once => exact fun k t c hk hc => (hstart.dismissed_run htasks ms).told k t c hk hc
  case dropped =>
    rintro before m after k t u c rfl hm hk hc hopen hu hend
    exact hstart.returnedTo_of_dropped htasks hm hk hc hopen hu hend
  case course => exact fun counsel books => runBy_eq counsel x₀ books ms
  case advised =>
    intro σ counsel books m e he
    obtain ⟨log, hrun⟩ := runBy_eq counsel x₀ books ms
    rw [runBy_concat]
    generalize runBy counsel (x₀, books) ms = p at hrun ⊢
    obtain ⟨y, now⟩ := p
    obtain ⟨rfl, -⟩ := Prod.mk.inj hrun
    have hmove := moveBy_of_returned counsel (x₀.run ms) log now he
    rw [policy_run, hpolicy] at hmove
    refine ⟨_, advised_rejectBy counsel o e now, ?_⟩
    rw [hmove]
    rfl
  case pure =>
    rw [← hpolicy]
    exact runBy_counselOf x₀ () ms

/-! ## §3. From settings to answers. -/

/-- **SETTINGS KEEP THEIR PROMISE** to all whom a run from `x₀` refuses. -/
structure Promising (s : GateSettings) (x₀ : Session) (ms : List Move) : Prop where
  /-- The refusal that is returned next reaches its caller as it is, or as an answer, of which a
  router keeps what it says. -/
  kept : ∀ m e, (x₀.run ms).returned? m = some e → ∃ r, r.reason = e.reason ∧ s.Promised r
    ∧ (x₀.run ms).shown m = [e.event r]
    ∧ ∀ frame, e.reply = .http frame →
      e.event r = .response e.name (frame.finish (.ofRejection r))
        ∧ frame.Keeps (.ofRejection r) (frame.finish (.ofRejection r))
  seen : ∀ name r, .refused name r ∈ (x₀.run ms).scene.log → s.Promised r

/-- **REFUSALS ARE AS CONFIGURED.**  Settings that are accepted make a gate and a policy, and every
refusal in every run over them keeps the promise of the settings.  With any other advice, which may
keep books, the header tells the whole seconds of what it says; and it is asked once for each refusal
that is returned, with the flag of that refusal, and for nobody else. -/
theorem refusals_as_configured :
    (∀ (s : GateSettings) (o : Options), s.toOptions = .ok o →
      ∃ g, Server.throttleOf o = .ok (g, .ofOptions o) ∧ ∀ site metrics ms,
        Promising s (ofGate g (.ofOptions o) site metrics) ms)
    ∧ (∀ (o : Options) (g : Gate) (p : Policy), Server.throttleOf o = .ok (g, p) →
      ∀ site metrics ms, GivenOut o (ofGate g p site metrics) ms) := by
  constructor
  · intro s o ho
    obtain ⟨g, hg⟩ := Gate.exists_ofOptions (GateSettings.terms_of_toOptions ho).valid
    refine ⟨g, ?_, fun site metrics ms => ?_⟩
    · unfold Server.throttleOf
      rw [hg]
    have hgiven := givenOut hg site metrics ms
    constructor
    case kept =>
      intro m e he
      refine ⟨_, rfl, GateSettings.promised_reject ho e.reason, hgiven.shown m e he, ?_⟩
      intro frame hreply
      refine ⟨?_, frame.keeps_finish _⟩
      unfold Returned.event
      rw [hreply]
    case seen =>
      intro name r hr
      obtain ⟨e, -, -, -, rfl⟩ := hgiven.refused name r hr
      exact GateSettings.promised_reject ho e.reason
  · intro o g p h site metrics ms
    unfold Server.throttleOf at h
    split at h
    next => cases h
    next g' hg =>
      cases h
      exact givenOut hg site metrics ms

/-- One slot and one place to wait: the first request keeps the slot, the second waits until the gate
loses its patience, the third finds no place, and the fourth comes with a context that has ended. -/
theorem refusals_as_configured_for_each_reason :
    let s : GateSettings :=
      { limit := 1, backlogLimit := 1, backlogTimeoutMs := 10, unboundedBacklogWait := false
        statusCode := 0, retryAfterSecs := some 3, retryAfterCancelledSecs := some 7 }
    let o := s.optionsWith .tooManyRequests
    let g := Gate.ofLimits 1 2 (.upTo (.ofMillis 10))
    let x₀ := ofGate g (.ofOptions o) ⟨.zero, none⟩ none
    let ms : List Move :=
      [.tell (.context "over" .root none none []), .tell (.cancel "over"),
        .tell (.acquire "a" none), .poll 0,
        .tell (.handle "b" none ⟨false, none, none, .null⟩), .poll 1,
        .tell (.handle "c" none ⟨false, none, none, .null⟩), .poll 2,
        .tell (.handle "d" (some "over") ⟨false, none, none, .null⟩), .poll 3,
        .advance 10, .poll 1]
    s.toOptions = .ok o
      ∧ Server.throttleOf o = .ok (g, .ofOptions o)
      ∧ returnedBy x₀ ms = [⟨"c", .value, .capacity⟩, ⟨"d", .value, .timeout true⟩,
          ⟨"b", .value, .timeout false⟩]
      ∧ Promising s x₀ ms ∧ GivenOut o x₀ ms := by
  intro s o g x₀ ms
  have hgate : Server.throttleOf o = .ok (g, .ofOptions o) := rfl
  obtain ⟨settings, options⟩ := refusals_as_configured
  obtain ⟨g', hg', promising⟩ := settings s o rfl
  rw [hgate] at hg'
  cases hg'
  exact ⟨rfl, hgate, by decide +kernel, promising _ _ ms, options o g _ hgate _ _ ms⟩

end Admission.Session

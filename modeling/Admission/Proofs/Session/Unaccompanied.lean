/-
  Admission.Proofs.Session.Unaccompanied — requests that come without a context.

  Such a request has no contexts but those of its own guards.  Nobody else can cancel these, and their
  deadlines are the guards' own.  A guard is looked at before the gate is asked; so wherever the gate
  is asked, the context goes on, and the gate turns nobody away on its account.

  Main results:
    * `Rooted.isOver_of_asks` — where the gate is asked, the context goes on;
    * `Sound.voiced` — what the polls of a request can show;
    * `ambient_cancel_unseen` — **a caller never sees a refusal on account of a context that ended**.
-/
import Admission.Proofs.Session.Answers
import Admission.Proofs.Session.Deadline
import Admission.Proofs.Session.Orphans
import Admission.Proofs.Session.Recast
import Admission.Proofs.Session.Waiting

namespace Admission.Session

open Context (lineageOf)

/-! ## §1. The context within the guards. -/

/-- A context goes on if no token that it stands under is cancelled and its deadline has not come. -/
theorem isOver_eq_false {context : Option Context} {s : Scene}
    (hcut : ∀ d, context = some d → ∀ i ∈ d.token.lineage, i ∉ s.tokens.cancelled)
    (hdate : ∀ d τ, context = some d → d.deadline = some τ → ¬ τ ≤ s.now) :
    Task.isOver context s = false := by
  cases context with
  | none => rfl
  | some d =>
      have hcancelled : d.token.isCancelled s.tokens = false := by
        unfold Token.isCancelled
        rw [List.any_eq_false]
        intro i hi
        simpa using hcut d rfl i hi
      have hpast : d.isPast s.now = false := by
        unfold Context.isPast
        cases hd : d.deadline with
        | none => rfl
        | some τ => exact decide_eq_false (hdate d τ rfl hd)
      show (d.token.isCancelled s.tokens || d.isPast s.now) = false
      rw [hcancelled, hpast]
      rfl

section Contexts

variable {x : Session} {k : Nat} {t : Task} {c : Call} {guards : List Guard}
  {context : Option Context}

/-- Where a request without a context of its own is parked, the token of its context is not
cancelled, -/
theorem Rooted.notMem_cancelled (h : x.Rooted) (ht : t ∈ x.tasks) (hn : t.ambient = none)
    {τ : Token} (hτ : τ ∈ t.tokens) : ∀ i ∈ τ.lineage, i ∉ x.scene.tokens.cancelled := by
  intro i hi
  rcases h.lineage t ht τ hτ i hi with hm | hm
  · obtain ⟨g, hg, rfl⟩ := List.mem_map.mp hm
    exact h.whole t ht g hg
  · rw [hn] at hm
    cases hm

/-- and its deadline is that of a guard. -/
theorem Equipped.deadline (h : Equipped t) (hc : t.job = .call c) (hn : c.ambient = none)
    (hst : t.stage = .parked guards context) {d : Context} {τ : Duration} (hd : context = some d)
    (hτ : d.deadline = some τ) : ∃ g ∈ guards, g.deadline = τ := by
  obtain ⟨now, ts, a, ha, -, rfl, rfl⟩ := h c guards context hc hst
  have hsprouted := sprouted_arm now c.timeouts c.ambient ts
  rw [ha] at hsprouted
  rcases hsprouted.deadline d τ hd hτ with hg | ⟨e, he, -⟩
  · exact hg
  · rw [hn] at he
    cases he

/-- A parked request without a context of its own gives up only if a guard is due. -/
theorem Rooted.isOver_of_parked (h : x.Rooted) (ht : t ∈ x.tasks) (hequip : Equipped t)
    (hc : t.job = .call c) (hn : c.ambient = none) (hst : t.stage = .parked guards context)
    (hd : Task.dueGuard? x.scene.now guards = none) : Task.isOver context x.scene = false := by
  refine isOver_eq_false (fun d hd' => ?_) fun d τ hd' hτ hle => ?_
  · refine h.notMem_cancelled ht ((ambient_of_call hc).trans hn) ?_
    unfold Task.tokens
    rw [hst, hd']
    exact List.mem_append_right _ (List.mem_singleton_self _)
  · obtain ⟨g, hg, rfl⟩ := hequip.deadline hc hn hst hd' hτ
    exact List.find?_eq_none.mp hd g hg (decide_eq_true hle)

/-- The context that new guards make goes on, if none of them fires at once. -/
theorem isOver_arm {s : Scene} (hcut : ∀ i ∈ s.tokens.cancelled, i < s.tokens.fresh)
    {ds : List Duration} {a : Task.Armed} (ha : Task.arm s.now ds none s.tokens = a)
    (hf : a.fired = false) : Task.isOver a.context { s with tokens := a.tokens } = false := by
  subst ha
  have hsprouted := sprouted_arm s.now ds none s.tokens
  have hdeadlines := deadlines_arm ds none s.tokens hf
  have htime : ∀ d ∈ ds, ¬ s.now + d ≤ s.now := by
    intro d hd hle
    rw [(fired_arm_iff s.now ds none s.tokens).mpr ⟨d, hd, hle⟩] at hf
    cases hf
  generalize Task.arm s.now ds none s.tokens = a at hf hsprouted hdeadlines ⊢
  refine isOver_eq_false (fun d hd i hi => ?_) fun d τ hd hτ hle => ?_
  · -- the token is that of a guard, and all above it are new
    rcases hsprouted.context with hnone | ⟨g, hg, e, he, htoken⟩
    · rw [hnone] at hd
      cases hd
    · rw [hd] at he
      cases he
      rw [htoken] at hi
      rcases hsprouted.lineage g hg i hi with hm | hm
      · obtain ⟨g', hg', rfl⟩ := List.mem_map.mp hm
        show _ ∉ a.tokens.cancelled
        rw [hsprouted.untouched hf]
        intro hold
        exact Nat.not_lt_of_le (hsprouted.bounds hg').1 (hcut _ hold)
      · cases hm
  · rcases hsprouted.deadline d τ hd hτ with ⟨g, hg, rfl⟩ | ⟨e, he, -⟩
    · have hmem := List.mem_map_of_mem (f := (·.deadline)) hg
      rw [hdeadlines] at hmem
      obtain ⟨d', hd', he⟩ := List.mem_map.mp hmem
      exact htime d' hd' (he ▸ hle)
    · cases he

/-- **WHERE THE GATE IS ASKED, THE CONTEXT GOES ON**, for a request that came without one. -/
theorem Rooted.isOver_of_asks (h : x.Rooted) (ht : t ∈ x.tasks) (hequip : Equipped t)
    (hc : t.job = .call c) (hn : c.ambient = none) {s0 : Scene} {v : Verdict}
    (hask : Asks t c x.scene guards context s0 v) : Task.isOver context s0 = false := by
  cases hask with
  | enters hf ha hfired =>
      rw [hn] at ha
      exact isOver_arm h.cut ha hfired
  | resumes hst hd => exact h.isOver_of_parked ht hequip hc hn hst hd

end Contexts

/-! ## §2. What a request is told. -/

/-- At the gate, nobody is turned away on account of a context that goes on. -/
theorem Asks.ne_cancelled {t : Task} {c : Call} {s s0 : Scene} {guards : List Guard}
    {context : Option Context} {v : Verdict} (h : Asks t c s guards context s0 v)
    (hp : Placed s.gate t) (hover : Task.isOver context s0 = false) :
    v ≠ .rejected (.timeout true) := by
  rintro rfl
  cases h with
  | @enters a g _ hf ha hn hg =>
      have he := Gate.enter_entry s.gate (hp.notMem_waiters hf) s.now
        (Task.isOver a.context { s with tokens := a.tokens })
      rw [hg] at he
      cases he with
      | ended hd => exact Bool.false_ne_true (hover.symm.trans hd)
  | @resumes _ _ g _ hst hd hg =>
      obtain ⟨u, hu⟩ := exists_waiter_of_placed hp hst
      have hr := Gate.resume_resumption s.gate hu s.now (Task.isOver context s)
      rw [hg] at hr
      cases hr with
      | ended hd => exact Bool.false_ne_true (hover.symm.trans hd)

/-- **WHAT A REQUEST CAN BE TOLD** that is never refused on account of its context. -/
inductive Voice (policy : Policy) (t : Task) (c : Call) : Event → Prop where
  | admitted : Voice policy t c (.admitted t.name)
  | started : Voice policy t c (.started t.name)
  | ended : Voice policy t c (Task.endingEvent t.name c.reply c.script.ending)
  | late : Voice policy t c (Task.deadlineEvent t.name c.reply)
  | refused {reason : Reason} (h : reason ≠ .timeout true) :
      Voice policy t c (Task.refusalEvent t.name c.reply policy reason)

theorem voice_opening {policy : Policy} {t : Task} {c : Call} {todo : List Action} {e : Event}
    (h : e ∈ opening t.name todo) : Voice policy t c e := by
  unfold opening at h
  split at h
  · rw [List.mem_singleton.mp h]
    exact .started
  · cases h

theorem Sound.undisturbed {x : Session} (h : x.Sound) (hroot : x.Rooted) {t : Task} {c : Call}
    (ht : t ∈ x.tasks) (hequip : Equipped t) (hc : t.job = .call c) (hn : c.ambient = none) :
    x.Undisturbed t c := by
  intro guards context s0 hask
  exact hask.ne_cancelled (h.placed t ht) (hroot.isOver_of_asks ht hequip hc hn hask) rfl

/-- **WHAT A POLL CAN TELL A REQUEST.** -/
theorem Sound.voiced {x : Session} (h : x.Sound) {k : Nat} {t : Task} {c : Call}
    (hk : x.tasks[k]? = some t) (hc : t.job = .call c) (hu : x.Undisturbed t c) :
    ∀ e ∈ x.shown (.poll k), Voice x.scene.policy t c e := by
  intro e he
  have hshows := h.shows hk hc
  generalize x.shown (.poll k) = es at he hshows
  -- of all refusals only that of a cancelled request is no voice, and `hu` excludes it
  cases hshows with
  | silent => cases he
  | late =>
      rw [List.mem_singleton.mp he]
      exact .late
  | @refused guards context s0 reason hask =>
      rw [List.mem_singleton.mp he]
      refine .refused ?_
      rintro rfl
      exact hu guards context s0 hask
  | keeps =>
      rw [List.mem_singleton.mp he]
      exact .admitted
  | acts =>
      rcases List.mem_append.mp he with he | he
      · exact voice_opening he
      · split at he
        · rw [List.mem_singleton.mp he]
          exact .ended
        · cases he

/-- **WHAT A RUN CAN TELL A REQUEST.** -/
theorem Sound.voiced_run {x : Session} (h : x.Sound) {ms : List Move} (hq : x.Quiet ms) {k : Nat}
    {t : Task} {c : Call} (hk : (x.run ms).tasks[k]? = some t) (hc : t.job = .call c) :
    ∀ e ∈ story k x ms, Voice x.scene.policy t c e := by
  intro e he
  obtain ⟨before, m, after, hms, hm⟩ := exists_of_mem_trail he
  obtain rfl : m = .poll k := by
    by_contra hne
    have hpolls : m.polls k = false := by
      rw [Bool.eq_false_iff]
      exact fun hp => hne (polls_iff.mp hp)
    rw [shownBy_of_not_polls hpolls] at hm
    cases hm
  rw [shownBy_poll] at hm
  cases hb : (x.run before).tasks[k]? with
  | none =>
      have hidle : (x.run before).move (.poll k) = x.run before := onTask_of_none hb Task.poll
      have hnil : (x.run before).shown (.poll k) = [] :=
        shown_of_log (by rw [hidle, List.append_nil])
      rw [hnil] at hm
      cases hm
  | some u =>
      obtain ⟨v, hv, hheir⟩ := ((h.run before).onward_run (.poll k :: after)).heir k u hb
      rw [← run_append, ← hms, hk] at hv
      cases hv
      have hcu : u.job = .call c := hheir.job ▸ hc
      have hvoice := (h.run before).voiced hb hcu
        (hq before _ hms u (List.mem_of_getElem? hb) c hcu) e hm
      rw [(h.onward_run before).policy] at hvoice
      -- the name of the request is the same at its end
      cases hvoice with
      | admitted => exact hheir.name ▸ .admitted
      | started => exact hheir.name ▸ .started
      | ended => exact hheir.name ▸ .ended
      | late => exact hheir.name ▸ .late
      | refused hr => exact hheir.name ▸ .refused hr

/-! ## §3. Requests whose deadline has come. -/

/-- **THE REQUEST GIVES UP** at its next poll: it has no time at all, a guard around it is due, or it
is parked and the context that it waits with has ended. -/
inductive GivesUp (t : Task) (c : Call) (s : Scene) : Prop where
  | atOnce {d : Duration} (hf : t.stage = .fresh) (hd : d ∈ c.timeouts) (h : s.now + d ≤ s.now)
  | due {g : Guard} (hg : g ∈ t.guards) (h : g.deadline ≤ s.now)
  | outlived {guards : List Guard} {context : Option Context} (hst : t.stage = .parked guards context)
      (h : Task.isOver context s = true)

theorem dueGuard?_of_mem {now : Duration} {guards : List Guard} {g : Guard} (hg : g ∈ guards)
    (hle : g.deadline ≤ now) : ∃ g', Task.dueGuard? now guards = some g' :=
  exists_dueGuard? (List.mem_map_of_mem (f := (·.deadline)) hg) hle

/-- **THEN A GUARD ANSWERS.** -/
theorem GivesUp.exists_fires {x : Session} (hroot : x.Rooted) {t : Task} {c : Call}
    (ht : t ∈ x.tasks) (hequip : Equipped t) (hc : t.job = .call c) (hn : c.ambient = none)
    (h : GivesUp t c x.scene) : ∃ s0, Fires t c x.scene s0 := by
  cases h with
  | atOnce hf hd hle => exact exists_fires_at_once hf hd hle
  | due hg hle =>
      unfold Task.guards at hg
      split at hg
      next hst =>
        obtain ⟨g, hd⟩ := dueGuard?_of_mem hg hle
        exact ⟨_, .parked hst hd⟩
      next hst =>
        obtain ⟨g, hd⟩ := dueGuard?_of_mem hg hle
        exact ⟨_, .running hst hd⟩
      next => cases hg
  | @outlived guards context hst hover =>
      -- such a context ends by the deadline of a guard, which is looked at first
      cases hd : Task.dueGuard? x.scene.now guards with
      | some g => exact ⟨_, .parked hst hd⟩
      | none =>
          rw [hroot.isOver_of_parked ht hequip hc hn hst hd] at hover
          cases hover

/-! ## §4. Nobody sees that a context has ended. -/

/-- Policies with the same status and the same advice for those who were not cancelled render alike
every other refusal. -/
theorem reject_congr {p q : Policy} (hs : p.status = q.status)
    (ha : p.retryAfter.map (· false) = q.retryAfter.map (· false)) {reason : Reason}
    (hr : reason ≠ .timeout true) : p.reject reason = q.reject reason := by
  have hambient : reason.isAmbient = false := by
    cases reason with
    | capacity => rfl
    | timeout ambient =>
        cases ambient with
        | false => rfl
        | true => exact absurd rfl hr
  unfold Policy.reject
  rw [hs, hambient, ha]

/-- The session under another policy. -/
def withPolicy (x : Session) (p : Policy) : Session :=
  { x with scene := { x.scene with policy := p } }

/-- **WHAT REQUESTS WITHOUT A CONTEXT MEET** in a run from `x₀`. -/
structure Sheltered (x₀ : Session) (ms : List Move) : Prop where
  /-- The gate turns nobody away on account of a context that has ended. -/
  undisturbed : ∀ t ∈ (x₀.run ms).tasks, ∀ c, t.job = .call c → (x₀.run ms).Undisturbed t c
  /-- No request was ever told of such a refusal. -/
  voiced : ∀ (k : Nat) (t : Task) (c : Call), (x₀.run ms).tasks[k]? = some t → t.job = .call c →
    ∀ e ∈ story k x₀ ms, Voice x₀.scene.policy t c e
  /-- The advice for cancelled requests is never asked for: with any other the run is the same. -/
  blind : ∀ p : Policy, p.status = x₀.scene.policy.status →
    p.retryAfter.map (· false) = x₀.scene.policy.retryAfter.map (· false) →
    (x₀.withPolicy p).run ms = (x₀.run ms).withPolicy p
  /-- A request that gives up because its deadline has come gets the answer of its guard, with the
  status 504 and its text. -/
  overdue : ∀ (k : Nat) (t : Task) (c : Call), (x₀.run ms).tasks[k]? = some t → t.job = .call c →
    GivesUp t c (x₀.run ms).scene →
    (x₀.run ms).shown (.poll k) = [Task.deadlineEvent t.name c.reply]
      ∧ (∃ a, (x₀.run ms).shown (.poll k) = [.response t.name a] ∧ SaysLate c.reply a)
      ∧ ((x₀.run ms).move (.poll k)).tasks[k]? = some t.finish
  /-- The gate counts as cancelled whose future was dropped where it was parked, each of them once. -/
  counted : (x₀.run ms).scene.gate.counters.cancelled = (trail orphaned x₀ ms).length
    ∧ (trail orphaned x₀ ms).Nodup
    ∧ (x₀.run ms).scene.gate.snapshot.rejectedCancelled = .ofNat (trail orphaned x₀ ms).length

/-- **NO REQUEST WITHOUT A CONTEXT SEES THAT A CONTEXT HAS ENDED**, with any deadline or none, in any
run over an accepted gate to which only such requests come. -/
theorem ambient_cancel_unseen (o : Options) (g : Gate) (h : Gate.ofOptions o = .ok g)
    (policy : Policy) (site : Site) (metrics : Option Metrics) (ms : List Move)
    (hn : ∀ t ∈ ((ofGate g policy site metrics).run ms).tasks, t.ambient = none) :
    Sheltered (ofGate g policy site metrics) ms := by
  have hstart := ofGate_sound h policy site metrics
  have hroot := ofGate_rooted g policy site metrics
  generalize hx : ofGate g policy site metrics = x₀ at hn hstart hroot ⊢
  have htasks : x₀.tasks = [] := by
    rw [← hx]
    rfl
  have hquiet : x₀.Quiet ms := by
    rintro before after rfl t ht c hc
    refine (hstart.run before).undisturbed (hroot.run hstart before) ht
      (equipped_run htasks before t ht) hc ?_
    -- a request without a context was so before
    obtain ⟨j, hj⟩ := List.mem_iff_getElem?.mp ht
    obtain ⟨u, hu, hheir⟩ := ((hstart.run before).onward_run after).heir j t hj
    rw [← run_append] at hu
    rw [← ambient_of_call (hheir.job.trans hc)]
    exact hn u (List.mem_of_getElem? hu)
  constructor
  case undisturbed => exact hquiet.last
  case voiced => exact fun k t c hk hc => hstart.voiced_run hquiet hk hc
  case blind =>
    intro p hs ha
    show (x₀.recast p []).run ms = (x₀.run ms).recast p []
    refine run_recast ms fun before after he t ht c hc guards context s0 reason hask => ?_
    rw [(hstart.onward_run before).policy]
    refine reject_congr hs ha ?_
    rintro rfl
    exact hquiet before after he t ht c hc guards context s0 hask
  case overdue =>
    intro k t c hk hc hgives
    have hmem := List.mem_of_getElem? hk
    have hambient : c.ambient = none := (ambient_of_call hc).symm.trans (hn t hmem)
    obtain ⟨s0, hfire⟩ := hgives.exists_fires (hroot.run hstart ms) hmem
      (equipped_run htasks ms t hmem) hc hambient
    obtain ⟨hshown, hafter⟩ := hfire.shown hk hc
    obtain ⟨a, hevent, hlate⟩ := exists_deadlineEvent_eq t.name c.reply
    exact ⟨hshown, ⟨a, hevent ▸ hshown, hlate⟩, hafter⟩
  case counted =>
    have hcount := hstart.cancelled_run hquiet
    have hzero : x₀.scene.gate.counters.cancelled = 0 := by
      rw [← hx, Gate.World.eq_of_ofOptions h]
      rfl
    rw [hzero, Nat.zero_add] at hcount
    exact ⟨hcount, hstart.nodup_orphaned ms, congrArg UInt64.ofNat hcount⟩

/-- The deadlines of two requests come at once with the end of the gate's patience: one of them runs,
the other is parked. -/
theorem ambient_cancel_unseen_at_deadline :
    let x₀ := ofGate (Gate.ofLimits 1 2 (.upTo (.ofMillis 30))) .standard
      ⟨.ofMillis 50, some (.ofMillis 30)⟩ none
    let ms : List Move :=
      [.tell (.http "a" none ⟨"GET", "/"⟩), .tell (.http "b" none ⟨"GET", "/"⟩), .poll 0, .poll 1,
        .advance 30, .poll 1, .poll 0]
    Gate.ofOptions ((Options.ofLimit 1).withBacklog 1 (.upTo (.ofMillis 30)))
        = .ok (Gate.ofLimits 1 2 (.upTo (.ofMillis 30)))
      ∧ (∀ t ∈ (x₀.run ms).tasks, t.ambient = none)
      ∧ (x₀.run ms).scene.gate.counters = ⟨1, 0, 0, 1⟩
      ∧ trail orphaned x₀ ms = [1]
      ∧ Sheltered x₀ ms := by
  intro x₀ ms
  have hnone : ∀ t ∈ (x₀.run ms).tasks, t.ambient = none := by decide +kernel
  exact ⟨rfl, hnone, by decide +kernel, by decide +kernel,
    ambient_cancel_unseen ((Options.ofLimit 1).withBacklog 1 (.upTo (.ofMillis 30))) _ rfl _ _ _ ms
      hnone⟩

end Admission.Session

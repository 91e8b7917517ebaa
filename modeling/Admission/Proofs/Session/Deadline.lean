/-
  Admission.Proofs.Session.Deadline — the law of the deadline.

  A request that is first polled at `s` behind a guard of span `T` is due from `s + T` on.  The guard
  is looked at before all else, so whatever the request has come to by then — parked, handed a run
  permit where it is parked, or running its handler — its next poll ends it with the answer of the
  guard.  What the guard cancels is below it.

  Main results:
    * `dated_run` — a request keeps the guards that its first poll reached, until it ends;
    * `Sound.due` — a request that is due has ended, or a guard fires in its next poll;
    * `deadline_law` — **a request to the page behind the gate is answered in time, or by its guard;
      then it holds nothing, and nobody else's context is cancelled**.
-/
import Admission.Proofs.Http.Frame
import Admission.Proofs.Session.Handlers
import Admission.Proofs.Session.Lineage

namespace Admission.Session

/-! ## §1. Guards stay. -/

/-- The request has ended, or it stands within guards of these deadlines. -/
def Dated (deadlines : List Duration) (t : Task) : Prop :=
  t.stage = .finished
    ∨ (∃ guards context, t.stage = .parked guards context ∧ guards.map (·.deadline) = deadlines)
    ∨ ∃ guards todo, t.stage = .running guards todo ∧ guards.map (·.deadline) = deadlines

theorem dated_finish (deadlines : List Duration) (t : Task) : Dated deadlines t.finish := .inl rfl

namespace Dated

variable {deadlines : List Duration} {t : Task} {guards : List Guard}

theorem not_fresh (h : Dated deadlines t) : t.stage ≠ .fresh := by
  intro hf
  rcases h with he | ⟨gs, context, he, -⟩ | ⟨gs, todo, he, -⟩
  all_goals
    rw [hf] at he
    cases he

theorem of_parked (h : Dated deadlines t) {context : Option Context}
    (hst : t.stage = .parked guards context) : guards.map (·.deadline) = deadlines := by
  rcases h with he | ⟨gs, context', he, hgs⟩ | ⟨gs, todo, he, -⟩
  all_goals
    rw [hst] at he
    cases he
  exact hgs

theorem of_running (h : Dated deadlines t) {todo : List Action}
    (hst : t.stage = .running guards todo) : guards.map (·.deadline) = deadlines := by
  rcases h with he | ⟨gs, context, he, -⟩ | ⟨gs, todo', he, hgs⟩
  all_goals
    rw [hst] at he
    cases he
  exact hgs

end Dated

/-- The guards of a request that asks: those that its first poll reached. -/
theorem Asks.deadlines {t : Task} {c : Call} {s s0 : Scene} {guards : List Guard}
    {context : Option Context} {v : Verdict} (h : Asks t c s guards context s0 v)
    {deadlines : List Duration}
    (ht : (t.stage = .fresh ∧ c.timeouts.map (s.now + ·) = deadlines) ∨ Dated deadlines t) :
    guards.map (·.deadline) = deadlines := by
  cases h with
  | enters hf ha hn hg =>
      have hdeadlines := deadlines_arm c.timeouts c.ambient s.tokens (ha.symm ▸ hn)
      rw [ha] at hdeadlines
      rcases ht with ⟨-, he⟩ | ht
      · rw [hdeadlines, he]
      · exact absurd hf ht.not_fresh
  | resumes hst hd hg =>
      rcases ht with ⟨hf, -⟩ | ht
      · rw [hst] at hf
        cases hf
      · exact ht.of_parked hst

/-- A first poll sets the deadlines; later ones leave them as they are. -/
theorem dated_poll {t : Task} {c : Call} (hc : t.job = .call c) (s : Scene)
    {deadlines : List Duration}
    (ht : (t.stage = .fresh ∧ c.timeouts.map (s.now + ·) = deadlines) ∨ Dated deadlines t) :
    Dated deadlines (t.poll s).1 := by
  have hturn := turn_poll hc s
  generalize t.poll s = out at hturn ⊢
  -- guards are set up by the first poll and then handed on from stage to stage
  cases hturn with
  | idle hi =>
      rcases ht with ⟨hf, -⟩ | ht
      · rw [hf] at hi
        rcases hi with hi | ⟨next, hi⟩ <;> cases hi
      · exact ht
  | late => exact dated_finish deadlines t
  | parks hask => exact .inr (.inl ⟨_, _, rfl, hask.deadlines ht⟩)
  | refused => exact dated_finish deadlines t
  | keeps => exact dated_finish deadlines t
  | @acts guards todo s0 hact =>
      have hguards : guards.map (·.deadline) = deadlines := by
        cases hact with
        | begins hask => exact hask.deadlines ht
        | goesOn hst =>
            rcases ht with ⟨hf, -⟩ | ht
            · rw [hst] at hf
              cases hf
            · exact ht.of_running hst
      unfold Task.proceed
      split
      · exact dated_finish deadlines t
      · exact .inr (.inr ⟨guards, _, rfl, hguards⟩)

/-- **A REQUEST KEEPS ITS GUARDS** in whatever run comes after its first poll, until it ends. -/
theorem dated_run {x : Session} (h : x.Sound) {k : Nat} {t : Task} {c : Call}
    (hk : x.tasks[k]? = some t) (hc : t.job = .call c) {deadlines : List Duration}
    (ht : Dated deadlines t) (ms : List Move) :
    ∃ u, (x.run ms).tasks[k]? = some u ∧ Heir t u ∧ Dated deadlines u := by
  induction ms generalizing x t with
  | nil => exact ⟨t, hk, .refl t, ht⟩
  | cons m ms ih =>
      obtain ⟨u, hu, hheir⟩ := (h.onward m).heir k t hk
      -- its own polls keep the guards, a drop ends it, and nothing else concerns it
      have hdated : Dated deadlines u := by
        rcases fate x m hk with rfl | ⟨-, hm | hm⟩
        · have hself := getElem?_onTask_self hk Task.poll
          rw [← Option.some.inj (hself.symm.trans hu)]
          exact dated_poll hc x.scene (.inr ht)
        · have hself := getElem?_onTask_self hk Task.abort
          rw [hm] at hu
          rw [← Option.some.inj (hself.symm.trans hu)]
          unfold Task.abort
          split <;> exact dated_finish deadlines t
        · rw [hm] at hu
          cases hu
          exact ht
      obtain ⟨v, hv, hheir', hdated'⟩ := ih (h.move m) hu (hheir.job ▸ hc) hdated
      exact ⟨v, hv, hheir.trans hheir', hdated'⟩

/-! ## §2. Guards that are due. -/

theorem exists_dueGuard? {now t : Duration} {guards : List Guard}
    (ht : t ∈ guards.map (·.deadline)) (hle : t ≤ now) :
    ∃ g, Task.dueGuard? now guards = some g := by
  obtain ⟨g, hg, rfl⟩ := List.mem_map.mp ht
  cases hd : Task.dueGuard? now guards with
  | some g' => exact ⟨g', rfl⟩
  | none => exact absurd (decide_eq_true hle) (List.find?_eq_none.mp hd g hg)

/-- A request that has not ended and is due meets a guard that fires. -/
theorem Dated.exists_fires {t : Task} {c : Call} {s : Scene} {deadlines : List Duration}
    (ht : Dated deadlines t) (hn : t.stage ≠ .finished) {d : Duration} (hd : d ∈ deadlines)
    (hle : d ≤ s.now) : ∃ s0, Fires t c s s0 := by
  rcases ht with he | ⟨guards, context, hp, rfl⟩ | ⟨guards, todo, hp, rfl⟩
  · exact absurd he hn
  · obtain ⟨g, hg⟩ := exists_dueGuard? hd hle
    exact ⟨_, .parked hp hg⟩
  · obtain ⟨g, hg⟩ := exists_dueGuard? hd hle
    exact ⟨_, .running hp hg⟩

/-- A guard with no time at all fires at once. -/
theorem exists_fires_at_once {t : Task} {c : Call} {s : Scene} (hf : t.stage = .fresh)
    {d : Duration} (hd : d ∈ c.timeouts) (hle : s.now + d ≤ s.now) : ∃ s0, Fires t c s s0 :=
  ⟨_, .atOnce hf rfl ((fired_arm_iff s.now c.timeouts c.ambient s.tokens).mpr ⟨d, hd, hle⟩)⟩

/-- **A GUARD THAT FIRES** ends the request with its answer. -/
theorem Fires.shown {x : Session} {k : Nat} {t : Task} {c : Call} (hk : x.tasks[k]? = some t)
    (hc : t.job = .call c) {s0 : Scene} (h : Fires t c x.scene s0) :
    x.shown (.poll k) = [Task.deadlineEvent t.name c.reply]
      ∧ (x.move (.poll k)).tasks[k]? = some t.finish := by
  have hpoll := h.poll_eq hc
  have hself := getElem?_onTask_self hk Task.poll
  rw [hpoll] at hself
  refine ⟨shown_of_log ?_, hself⟩
  rw [scene_move_poll hk, hpoll]
  exact congrArg (· ++ [_]) h.log_eq

/-- What has ended without a ticket for its caller holds nothing, now or later. -/
theorem Sound.notMem_ids_run {x : Session} (h : x.Sound) {k : Nat} {t : Task} {c : Call}
    (hk : x.tasks[k]? = some t) (hc : t.job = .call c) (hr : c.reply ≠ .ticket)
    (hst : t.stage = .finished) (ms : List Move) :
    (∃ u, (x.run ms).tasks[k]? = some u ∧ u.stage = .finished)
      ∧ k ∉ (x.run ms).scene.gate.ids := by
  obtain ⟨u, hu, hheir⟩ := (h.onward_run ms).heir k t hk
  exact ⟨⟨u, hu, hheir.stays hst⟩,
    (h.run ms).notMem_ids hu (hheir.job.trans hc) hr (hheir.stays hst)⟩

/-! ## §3. From the first poll on. -/

/-- **`y` COMES WITH OR AFTER THE POLL** of task `k` in `x`: it is `x` itself, in which the task is
about to be polled, or a run leads to it from there. -/
def Since (x : Session) (k : Nat) (y : Session) : Prop :=
  y = x ∨ ∃ ms, y = (x.move (.poll k)).run ms

theorem Since.exists_run {x y : Session} {k : Nat} (h : Since x k y) : ∃ ms, y = x.run ms := by
  rcases h with rfl | ⟨ms, rfl⟩
  · exact ⟨[], rfl⟩
  · exact ⟨.poll k :: ms, rfl⟩

/-- **A REQUEST THAT IS DUE** has ended, or a guard fires in its next poll. -/
theorem Sound.due {x y : Session} (h : x.Sound) {k : Nat} {t : Task} {c : Call}
    (hk : x.tasks[k]? = some t) (hf : t.stage = .fresh) (hc : t.job = .call c) {d : Duration}
    (hd : d ∈ c.timeouts) (hy : Since x k y) (hle : x.scene.now + d ≤ y.scene.now) :
    ∃ u, y.tasks[k]? = some u ∧ Heir t u
      ∧ (u.stage = .finished ∨ ∃ s0, Fires u c y.scene s0) := by
  rcases hy with rfl | ⟨ms, rfl⟩
  · exact ⟨t, hk, .refl t, .inr (exists_fires_at_once hf hd hle)⟩
  · obtain ⟨v, hv, hheir⟩ := (h.onward (.poll k)).heir k t hk
    have hdated : Dated (c.timeouts.map (x.scene.now + ·)) v := by
      rw [← Option.some.inj ((getElem?_onTask_self hk Task.poll).symm.trans hv)]
      exact dated_poll hc x.scene (.inl ⟨hf, rfl⟩)
    obtain ⟨u, hu, hheir', hdated'⟩ := dated_run (h.move _) hv (hheir.job ▸ hc) hdated ms
    refine ⟨u, hu, hheir.trans hheir', ?_⟩
    by_cases hst : u.stage = .finished
    · exact .inl hst
    · exact .inr (hdated'.exists_fires hst (List.mem_map_of_mem hd) hle)

/-- A task that has ended shows nothing more. -/
theorem shown_of_finished {x : Session} {k : Nat} {t : Task} (hk : x.tasks[k]? = some t)
    (hst : t.stage = .finished) : x.shown (.poll k) = [] := by
  refine shown_of_log ?_
  rw [scene_move_poll hk, poll_of_finished hst, List.append_nil]

/-- **WHOSE CONTEXT IS NOT TASK `k`'S**: it comes from the outside, or another task has it within its
guards. -/
def Foreign (x : Session) (k : Nat) (d : Context) : Prop :=
  d ∈ x.outer ∨ ∃ j u, j ≠ k ∧ x.tasks[j]? = some u ∧ d.token ∈ u.tokens

/-- **A POLL ENDS NO CONTEXT OF OTHERS.** -/
theorem Rooted.isDone_poll {x : Session} (h : x.Rooted) (hs : x.Sound) {k : Nat} {t : Task}
    (hk : x.tasks[k]? = some t) {d : Context} (hd : Foreign x k d) :
    d.isDone (x.move (.poll k)).scene.tokens (x.move (.poll k)).scene.now
      = d.isDone x.scene.tokens x.scene.now := by
  have hnow : (x.move (.poll k)).scene.now = x.scene.now := by
    rw [scene_move_poll hk, now_poll]
  unfold Context.isDone
  rw [hnow, h.isCancelled_poll hs hk (hd.imp_left fun hm => ⟨d, hm, rfl⟩)]

/-! ## §4. The law. -/

/-- **THE LAW OF A DEADLINE `T`** for the request `k` that is polled first in `x`, where it came with
`context` and its guard gives `answer`. -/
structure Bounded (T : Duration) (x : Session) (k : Nat) (name : String)
    (context : Option Context) (answer : Http.Response) : Prop where
  /-- Any other answer is seen before the deadline. -/
  early : ∀ y, Since x k y → ∀ e ∈ y.shown (.poll k),
    e = .response name answer ∨ y.scene.now < x.scene.now + T
  /-- Whatever the request has come to, a poll at or after the deadline ends it with this answer. -/
  ends : ∀ y, Since x k y → ∀ u, y.tasks[k]? = some u → u.stage ≠ .finished →
    x.scene.now + T ≤ y.scene.now → y.shown (.poll k) = [.response name answer]
  /-- From then on it holds neither a ticket nor a place, and all permits are with others. -/
  gone : ∀ y, Since x k y → x.scene.now + T ≤ y.scene.now → ∀ ms,
    (∃ u, ((y.move (.poll k)).run ms).tasks[k]? = some u ∧ u.stage = .finished)
      ∧ k ∉ ((y.move (.poll k)).run ms).scene.gate.ids
      ∧ Gate.Balanced ((y.move (.poll k)).run ms).scene.gate 0 0
  /-- Where there is no time at all, the request never touches the gate. -/
  untouched : T = .zero → ∀ y, Since x k y →
    (y.move (.poll k)).scene.gate = y.scene.gate ∧ (y.move (.drop k)).scene.gate = y.scene.gate
  /-- No poll of it ends the context that it came with, or one of the others. -/
  harmless : ∀ y, Since x k y → ∀ d, context = some d ∨ Foreign y k d →
    d.isDone (y.move (.poll k)).scene.tokens (y.move (.poll k)).scene.now
      = d.isDone y.scene.tokens y.scene.now

/-- A poll at or after the deadline finds the request at its end, or makes a guard answer it. -/
theorem Sound.answered {x : Session} (h : x.Sound) {k : Nat} {t : Task} {c : Call}
    (hk : x.tasks[k]? = some t) (hf : t.stage = .fresh) (hc : t.job = .call c)
    {frame : Http.Frame} (hr : c.reply = .http frame) {T : Duration} (hT : T ∈ c.timeouts)
    {y : Session} (hy : Since x k y) (hle : x.scene.now + T ≤ y.scene.now) :
    ∃ u, y.tasks[k]? = some u ∧ Heir t u
      ∧ (u.stage = .finished
        ∨ y.shown (.poll k) = [.response t.name (frame.finish .deadlineExceeded)])
      ∧ (y.move (.poll k)).tasks[k]? = some u.finish := by
  obtain ⟨u, hu, hheir, hst | ⟨s0, hfire⟩⟩ := h.due hk hf hc hT hy hle
  · refine ⟨u, hu, hheir, .inl hst, ?_⟩
    rw [show (y.move (.poll k)).tasks[k]? = _ from getElem?_onTask_self hu Task.poll,
      poll_of_finished hst, finish_of_finished hst]
  · obtain ⟨hshown, hafter⟩ := hfire.shown hu (hheir.job ▸ hc)
    refine ⟨u, hu, hheir, .inr ?_, hafter⟩
    rw [hshown, hheir.name]
    unfold Task.deadlineEvent
    rw [hr]

/-- A request that has ended does not touch the gate. -/
theorem gate_of_finished {x : Session} {k : Nat} {t : Task} (hk : x.tasks[k]? = some t)
    (hst : t.stage = .finished) : (x.move (.poll k)).scene.gate = x.scene.gate
      ∧ (x.move (.drop k)).scene.gate = x.scene.gate := by
  constructor
  · rw [scene_move_poll hk, poll_of_finished hst]
  · show (x.onTask k Task.abort).scene.gate = _
    rw [onTask_of_some hk]
    unfold Task.abort
    rw [hst]

/-- Nor does one that has no time at all. -/
theorem gate_of_no_time {x : Session} {k : Nat} {t : Task} {c : Call} (hk : x.tasks[k]? = some t)
    (hf : t.stage = .fresh) (hc : t.job = .call c) (hT : Duration.zero ∈ c.timeouts) :
    (x.move (.poll k)).scene.gate = x.scene.gate
      ∧ (x.move (.drop k)).scene.gate = x.scene.gate := by
  obtain ⟨s0, hfire⟩ := exists_fires_at_once (s := x.scene) hf hT (Nat.le_refl _)
  have hgate : s0.gate = x.scene.gate := by
    cases hfire with
    | atOnce => rfl
    | parked hp | running hp =>
        rw [hf] at hp
        cases hp
  constructor
  · rw [scene_move_poll hk, hfire.poll_eq hc]
    exact hgate
  · show (x.onTask k Task.abort).scene.gate = _
    rw [onTask_of_some hk]
    unfold Task.abort
    rw [hf]

/-- A request with a guard of span `T` obeys the law. -/
theorem Sound.bounded {x : Session} (h : x.Sound) (hroot : x.Rooted) {k : Nat} {t : Task}
    {c : Call} (hk : x.tasks[k]? = some t) (hf : t.stage = .fresh) (hc : t.job = .call c)
    {frame : Http.Frame} (hr : c.reply = .http frame) {T : Duration} (hT : T ∈ c.timeouts) :
    Bounded T x k t.name c.ambient (frame.finish .deadlineExceeded) := by
  constructor
  case early =>
    intro y hy e he
    by_cases hle : x.scene.now + T ≤ y.scene.now
    · obtain ⟨u, hu, -, hst | hshown, -⟩ := h.answered hk hf hc hr hT hy hle
      · rw [shown_of_finished hu hst] at he
        cases he
      · rw [hshown] at he
        exact .inl (List.mem_singleton.mp he)
    · -- whatever is seen now is seen in time
      exact .inr (Nat.lt_of_not_le hle)
  case ends =>
    intro y hy u hu hst hle
    obtain ⟨v, hv, -, hst' | hshown, -⟩ := h.answered hk hf hc hr hT hy hle
    · rw [hu] at hv
      cases hv
      exact absurd hst' hst
    · exact hshown
  case gone =>
    intro y hy hle ms
    obtain ⟨u, hu, hheir, -, hafter⟩ := h.answered hk hf hc hr hT hy hle
    obtain ⟨ms', rfl⟩ := hy.exists_run
    have hs := (h.run ms').move (.poll k)
    have hreply : c.reply ≠ .ticket := by
      rw [hr]
      nofun
    obtain ⟨hst, hids⟩ := hs.notMem_ids_run hafter (hheir.job ▸ hc) hreply rfl ms
    exact ⟨hst, hids, (hs.run ms).balanced⟩
  case untouched =>
    rintro rfl y (rfl | ⟨ms, rfl⟩)
    · exact gate_of_no_time hk hf hc hT
    · -- the first poll was the last
      have hle : x.scene.now + .zero ≤ x.scene.now := Nat.le_refl _
      obtain ⟨v, -, -, -, hafter⟩ := h.answered hk hf hc hr hT (.inl rfl) hle
      obtain ⟨u, hu, hheir⟩ := ((h.move (.poll k)).onward_run ms).heir k _ hafter
      exact gate_of_finished hu (hheir.stays rfl)
  case harmless =>
    intro y hy d hd
    obtain ⟨ms, rfl⟩ := hy.exists_run
    obtain ⟨u, hu, hheir⟩ := (h.onward_run ms).heir k t hk
    refine (hroot.run h ms).isDone_poll (h.run ms) hu ?_
    rcases hd with ha | hforeign
    · have hambient := (ambient_of_call (hheir.job.trans hc)).trans ha
      exact .inl (mem_outer_of_ambient (List.mem_of_getElem? hu) hambient)
    · exact hforeign

/-- **THE DEADLINE LAW**, for every request to the page behind the gate of a router with a deadline,
in every run over an accepted gate. -/
theorem deadline_law (o : Options) (g : Gate) (h : Gate.ofOptions o = .ok g) (policy : Policy)
    (site : Site) (metrics : Option Metrics) (T : Duration) (hT : site.requestTimeout = some T)
    (before : List Move) (k : Nat) (t : Task) (context : Option Context)
    (request : Http.Request)
    (hk : ((ofGate g policy site metrics).run before).tasks[k]? = some t)
    (hfresh : t.stage = .fresh) (hjob : t.job = siteJob site context request)
    (hpath : request.path = "/") (hmethod : request.method ≠ "OPTIONS") :
    Bounded T ((ofGate g policy site metrics).run before) k t.name context
        ((site.visit request).frame.finish .deadlineExceeded)
      ∧ ((site.visit request).frame.finish .deadlineExceeded).status = .gatewayTimeout
      ∧ (request.method ≠ "HEAD" →
        ((site.visit request).frame.finish .deadlineExceeded).body = .text "Service Timeout\n") := by
  have hstart := ofGate_sound h policy site metrics
  have hroot := (ofGate_rooted g policy site metrics).run hstart before
  rw [siteJob_of_page site context hpath hmethod, hT] at hjob
  refine ⟨?_, Http.Frame.status_finish _ _,
    fun hhead => Http.Frame.body_finish hhead (.inr rfl)⟩
  exact (hstart.run before).bounded hroot hk hfresh hjob rfl (List.mem_singleton_self T)

/-- A request that came with a context waits behind another one; then its turn and its deadline come
at once. -/
theorem deadline_law_in_a_tie :
    let site : Site := ⟨.zero, some (.ofMillis 30)⟩
    let x₀ := ofGate (Gate.ofLimits 1 2 .unbounded) .standard site none
    let parent : Context := ⟨none, ⟨0, []⟩, none⟩
    let before : List Move :=
      [.tell (.context "p" .root none none []), .tell (.acquire "a" none), .poll 0,
        .tell (.http "b" (some "p") ⟨"GET", "/"⟩)]
    let tie : List Move := [.poll 1, .advance 30, .tell (.release "a")]
    Gate.ofOptions ((Options.ofLimit 1).withBacklog 1 .unbounded)
        = .ok (Gate.ofLimits 1 2 .unbounded)
      ∧ (x₀.run (before ++ tie)).scene.gate.waiters = [⟨1, .zero, true⟩]
      ∧ (x₀.run (before ++ tie ++ [.poll 1])).scene.gate.waiters = []
      ∧ (x₀.run (before ++ tie ++ [.poll 1])).scene.gate.freeRun = 1
      ∧ Bounded (.ofMillis 30) (x₀.run before) 1 "b" (some parent)
        ((site.visit ⟨"GET", "/"⟩).frame.finish .deadlineExceeded) := by
  intro site x₀ parent before tie
  have htask : (x₀.run before).tasks[1]?
      = some ⟨1, "b", siteJob site (some parent) ⟨"GET", "/"⟩, .fresh⟩ := by
    simp [x₀, before, site, parent, run, move, apply, Command.isStill, onTask, addTask, makeContext,
      context?, ofGate, Context.root, Tokens.root, Tokens.empty, Scene.assign]
  refine ⟨rfl, by decide +kernel, by decide +kernel, by decide +kernel, ?_⟩
  exact (deadline_law ((Options.ofLimit 1).withBacklog 1 .unbounded) _ rfl .standard site none
    (.ofMillis 30) rfl before 1 _ _ _ htask rfl rfl (by decide) (by decide)).1

end Admission.Session

/-
  Admission.Proofs.Session.Waiting — nobody is parked past what may end the wait.

  A request waits at the gate from its first poll on, and three things may end its wait: its context,
  with whatever that descends from; a guard around it; the timer of the gate, which runs from the
  instant at which the wait began.  Where a poll leaves a parked request as it is, none of them has
  come.

  Main results:
    * `Sound.line_move` — whoever comes to the line comes in its own first poll;
    * `asks_timeout_iff` — **when the timer turns a parked request away**;
    * `no_stuck_waiter` — **in a settled session every wait goes on for good reason**.
-/
import Admission.Proofs.Session.Arming
import Admission.Proofs.Session.Sound

namespace Admission.Session

open Context (Descends)

/-! ## §1. When a wait began. -/

theorem follows_abort {t : Task} {s : Scene} (hb : Gate.Balanced s.gate 0 0) :
    Gate.Follows s.gate (t.abort s).2.gate := by
  unfold Task.abort
  split
  · obtain ⟨metrics, he⟩ := exists_eq_abandon s t.key
    rw [he]
    exact .abandon s.gate t.key
  · exact .discard hb t.key
  · exact .refl s.gate

namespace Sound

variable {x : Session}

theorem line_order (h : x.Sound) {y : Session} (ho : Order x y) :
    ∀ p ∈ y.scene.gate.places, p ∈ x.scene.gate.places := by
  cases ho with
  | @dropped k t hk =>
      rw [onTask_of_some hk]
      exact (follows_abort h.balanced).places_subset
  | @released name key _ => exact (Gate.Follows.release h.balanced key).places_subset
  | @discarded name key _ => exact (Gate.Follows.discard h.balanced key).places_subset
  | idle | came | contextMade | cancelled | permitted => exact fun _ hp => hp

/-- Whoever comes to the line by a poll is the one that is polled, for the first time. -/
theorem line_poll (h : x.Sound) {k : Nat} {t : Task} (hk : x.tasks[k]? = some t) :
    ∀ p ∈ (t.poll x.scene).2.gate.places,
      p ∈ x.scene.gate.places ∨ (t.stage = .fresh ∧ p = (k, x.scene.now)) := by
  have hkey := h.keyed k t hk
  intro p hp
  rcases h.polled hk with hd | ⟨c, guards, context, s0, hc, hask, hr, hd, he⟩
  · rw [← hkey]
    exact hd.line p hp
  · -- a ticket that its caller kept before may be dropped
    rw [he] at hp
    rw [← hkey]
    have hp : p ∈ ((s0.record (·.recordAdmitted)).keepTicket t.name t.key).gate.places := hp
    rcases keepTicket_eq (s0.record (·.recordAdmitted)) t.name t.key with hkeep | ⟨old, -, hkeep⟩
    · rw [hkeep] at hp
      exact hd.line p hp
    · rw [hkeep] at hp
      exact hd.line p ((Gate.Follows.discard hd.balanced old).places_subset p hp)

/-- **WHO COMES TO THE LINE** comes in its own first poll. -/
theorem line_move (h : x.Sound) (m : Move) : ∀ p ∈ (x.move m).scene.gate.places,
    p ∈ x.scene.gate.places ∨ (m = .poll p.1 ∧ p.2 = x.scene.now
      ∧ ∃ t, x.tasks[p.1]? = some t ∧ t.stage = .fresh) := by
  intro p hp
  rcases poll_or_not m with ⟨k, rfl⟩ | hm
  · cases hk : x.tasks[k]? with
    | none =>
        rw [show x.move (.poll k) = x from onTask_of_none hk _] at hp
        exact .inl hp
    | some t =>
        rw [scene_move_poll hk] at hp
        rcases h.line_poll hk p hp with hp | ⟨hst, rfl⟩
        · exact .inl hp
        · exact .inr ⟨rfl, rfl, t, hk, hst⟩
  · rcases order_or_tick x hm with ho | ⟨ms, hx⟩
    · exact .inl (h.line_order ho p hp)
    · rw [hx] at hp
      exact .inl hp

end Sound

/-- A task with a place in the line is parked. -/
theorem Placed.parked_of_mem {g : Gate} {r b : Nat} (hb : Gate.Balanced g r b) {t : Task}
    (hp : Placed g t) (hm : t.key ∈ g.waiters.map (·.id)) :
    ∃ guards context, t.stage = .parked guards context := by
  cases hst : t.stage with
  | parked guards context => exact ⟨guards, context, rfl⟩
  | fresh => exact absurd hm (hp.notMem_waiters hst)
  | reporting next => exact absurd (List.mem_append_right _ hm) (hp.reporting next hst)
  | running guards todo => exact absurd hm (hb.notMem_waiters (hp.running guards todo hst))
  | finished => exact absurd hm (hp.ended hst).1

/-- **THE WAIT OF REQUEST `k` BEGAN AT `start`**: that was the instant of its first poll, and this
poll parked it. -/
def BeganAt (x₀ : Session) (ms : List Move) (k : Nat) (start : Duration) : Prop :=
  ∃ before after t u guards context, ms = before ++ .poll k :: after
    ∧ (x₀.run before).tasks[k]? = some t ∧ t.stage = .fresh
    ∧ (x₀.run (before ++ [.poll k])).tasks[k]? = some u ∧ u.stage = .parked guards context
    ∧ (x₀.run before).scene.now = start

/-- Time has not gone back since a wait began. -/
theorem BeganAt.le {x₀ : Session} {ms : List Move} {k : Nat} {start : Duration}
    (hb : BeganAt x₀ ms k start) (h : x₀.Sound) : start ≤ (x₀.run ms).scene.now := by
  obtain ⟨before, after, -, -, -, -, rfl, -, -, -, -, rfl⟩ := hb
  rw [run_append]
  exact ((h.run before).onward_run _).now

/-- Whoever stands in line stands there since its first poll. -/
theorem Sound.beganAt {x₀ : Session} (h : x₀.Sound) (hx : x₀.scene.gate.places = [])
    (ms : List Move) :
    ∀ p ∈ (x₀.run ms).scene.gate.places, BeganAt x₀ ms p.1 p.2 := by
  induction ms using List.reverseRecOn with
  | nil =>
      intro p hp
      rw [run_nil, hx] at hp
      cases hp
  | append_singleton ms m ih =>
      intro p hp
      have hsound := h.run ms
      have hsound' := h.run (ms ++ [m])
      rw [run_concat] at hp
      -- it has been in line, or the last move has brought it there
      rcases hsound.line_move m p hp with hp | ⟨rfl, hnow, t, hk, hst⟩
      · obtain ⟨before, after, t, u, guards, context, hms, hrest⟩ := ih p hp
        refine ⟨before, after ++ [m], t, u, guards, context, ?_, hrest⟩
        rw [hms, List.append_assoc, List.cons_append]
      · obtain ⟨u, hu, hheir⟩ := (hsound.onward (.poll p.1)).heir p.1 t hk
        rw [← run_concat] at hu hp
        have hmem : u.key ∈ (x₀.run (ms ++ [.poll p.1])).scene.gate.waiters.map (·.id) := by
          rw [hsound'.keyed p.1 u hu, ← Gate.map_fst_places]
          exact List.mem_map_of_mem hp
        obtain ⟨guards, context, hpark⟩ :=
          (hsound'.placed u (List.mem_of_getElem? hu)).parked_of_mem hsound'.balanced hmem
        exact ⟨ms, [], t, u, guards, context, rfl, hk, hst, hu, hpark, hnow.symm⟩

/-! ## §2. The context of a wait. -/

/-- What every task keeps if its first stage has it, if a poll keeps it, and if it may end with it. -/
theorem forall_tasks_move {P : Task → Prop} (hnew : ∀ t, t.stage = .fresh → P t)
    (hpoll : ∀ t s, P t → P (t.poll s).1) (hend : ∀ t, P t → P t.finish) {x : Session}
    (h : ∀ t ∈ x.tasks, P t) (m : Move) : ∀ t ∈ (x.move m).tasks, P t := by
  have habort : ∀ t s, P t → P (t.abort s).1 := by
    intro t s ht
    unfold Task.abort
    split <;> exact hend t ht
  intro u hu
  obtain ⟨k, hk⟩ := List.mem_iff_getElem?.mp hu
  by_cases hlt : k < x.tasks.length
  · obtain ⟨t, ht⟩ : ∃ t, x.tasks[k]? = some t := ⟨_, List.getElem?_eq_getElem hlt⟩
    have hP := h t (List.mem_of_getElem? ht)
    rcases fate x m ht with rfl | ⟨-, hm | hm⟩
    · have hself := getElem?_onTask_self ht Task.poll
      rw [← Option.some.inj (hself.symm.trans hk)]
      exact hpoll t x.scene hP
    · have hself := getElem?_onTask_self ht Task.abort
      rw [hm] at hk
      rw [← Option.some.inj (hself.symm.trans hk)]
      exact habort t x.scene hP
    · rw [← Option.some.inj (hm.symm.trans hk)]
      exact hP
  · exact hnew u (fresh_of_new m (by omega) hk)

/-- A parked request has the guards and the context that its first poll reached. -/
def Equipped (t : Task) : Prop :=
  ∀ c guards context, t.job = .call c → t.stage = .parked guards context →
    ∃ now ts a, Task.arm now c.timeouts c.ambient ts = a ∧ a.fired = false ∧ a.guards = guards
      ∧ a.context = context

theorem Asks.equipped {t : Task} {c : Call} {s s0 : Scene} {guards : List Guard}
    {context : Option Context} {v : Verdict} (h : Asks t c s guards context s0 v)
    (ht : Equipped t) (hc : t.job = .call c) :
    ∃ now ts a, Task.arm now c.timeouts c.ambient ts = a ∧ a.fired = false ∧ a.guards = guards
      ∧ a.context = context := by
  cases h with
  | enters hf harm hn => exact ⟨_, _, _, harm, hn, rfl, rfl⟩
  | resumes hp => exact ht c _ _ hc hp

theorem equipped_poll (t : Task) (s : Scene) (h : Equipped t) : Equipped (t.poll s).1 := by
  intro c guards context hc hst
  rcases call_or_not t with ⟨d, hd⟩ | hj
  · have hturn := turn_poll hd s
    generalize t.poll s = out at hturn hc hst
    -- only a request that parks now can come to stand with guards anew
    cases hturn with
    | idle => exact h c guards context hc hst
    | late => cases hst
    | parks hask =>
        rw [show t.job = .call c from hc] at hd
        cases hd
        cases hst
        exact hask.equipped h hc
    | refused => cases hst
    | keeps => cases hst
    | @acts guards' todo s0 hact =>
        unfold Task.proceed at hst
        split at hst <;> cases hst
  · have haside := aside_poll hj s
    generalize t.poll s = out at haside hc hst
    cases haside with
    | still => exact h c guards context hc hst
    | answers | sees | leaves | reports => cases hst

theorem equipped_run {x₀ : Session} (hx : x₀.tasks = []) (ms : List Move) :
    ∀ t ∈ (x₀.run ms).tasks, Equipped t := by
  induction ms using List.reverseRecOn with
  | nil =>
      intro t ht
      rw [run_nil, hx] at ht
      cases ht
  | append_singleton ms m ih =>
      rw [run_concat]
      refine forall_tasks_move ?_ equipped_poll ?_ ih m
      · intro t hfresh c guards context _ hst
        rw [hfresh] at hst
        cases hst
      · intro t _ c guards context _ hst
        cases hst

/-- So this context descends from the one that the request came with. -/
theorem Equipped.descends {t : Task} (h : Equipped t) {c : Call} (hc : t.job = .call c)
    {guards : List Guard} {context : Option Context} (hst : t.stage = .parked guards context)
    {p : Context} (hp : c.ambient = some p) : ∃ d, context = some d ∧ Descends p d := by
  obtain ⟨now, ts, a, ha, -, -, rfl⟩ := h c guards context hc hst
  rw [← ha, hp]
  exact descends_arm c.timeouts .self ts

/-! ## §3. What a poll finds of a wait. -/

/-- **REQUEST `k` IS PARKED SINCE `start`.** -/
structure Wait (x : Session) (k : Nat) (t : Task) (c : Call) (guards : List Guard)
    (context : Option Context) (start : Duration) : Prop where
  task : x.tasks[k]? = some t
  job : t.job = .call c
  stage : t.stage = .parked guards context
  place : (k, start) ∈ x.scene.gate.places

section Polls

variable {x : Session} {k : Nat} {t : Task} {c : Call} {guards : List Guard}
  {context : Option Context} {start : Duration}

/-- A parked request has its place in the line. -/
theorem Sound.exists_wait (h : x.Sound) (hk : x.tasks[k]? = some t)
    (hst : t.stage = .parked guards context) :
    ∃ c start, Wait x k t c guards context start := by
  have hmem := List.mem_of_getElem? hk
  obtain ⟨c, hc⟩ := (h.fit t hmem).parked guards context hst
  obtain ⟨p, hp, hid⟩ : ∃ p ∈ x.scene.gate.places, p.1 = k := by
    have hplace := (h.placed t hmem).parked guards context hst
    rw [h.keyed k t hk, ← Gate.map_fst_places] at hplace
    exact List.mem_map.mp hplace
  exact ⟨c, p.2, hk, hc, hst, hid ▸ hp⟩

theorem Wait.waiter? (hw : Wait x k t c guards context start) (h : x.Sound) :
    ∃ u, x.scene.gate.waiter? k = some u ∧ u.since = start := by
  obtain ⟨u, hu, he⟩ := List.mem_map.mp hw.place
  obtain ⟨rfl, rfl⟩ := Prod.mk.inj he
  exact ⟨u, Gate.find?_of_mem Waiter.id h.balanced.waiters_nodup hu, rfl⟩

/-- Nobody has handed the request a run permit. -/
theorem Sound.unpromised_iff (h : x.Sound) {u : Waiter} (hu : x.scene.gate.waiter? k = some u) :
    (∀ v ∈ x.scene.gate.promised, v.id ≠ k) ↔ u.handed = false := by
  have hid := Gate.id_of_waiter? hu
  have hmem := Gate.mem_of_waiter? hu
  constructor
  · intro hall
    by_contra hh
    exact hall u (List.mem_filter.mpr ⟨hmem, by simpa using hh⟩) hid
  · intro hh v hv hvk
    obtain ⟨hv, hvh⟩ := List.mem_filter.mp hv
    have he := List.inj_on_of_nodup_map h.balanced.waiters_nodup hv hmem (hvk.trans hid.symm)
    rw [he, hh] at hvh
    cases hvh

/-- A parked request whose guards have time asks where it is parked. -/
theorem Wait.asks_iff (hw : Wait x k t c guards context start) (h : x.Sound) (v : Verdict) :
    (∃ s0, Asks t c x.scene guards context s0 v) ↔ Task.dueGuard? x.scene.now guards = none
      ∧ (x.scene.gate.resume k x.scene.now (Task.isOver context x.scene)).2 = v := by
  have hkey := h.keyed k t hw.task
  constructor
  · rintro ⟨s0, hask⟩
    cases hask with
    | enters hf =>
        rw [hw.stage] at hf
        cases hf
    | resumes hp hd hg =>
        rw [← hkey, hg]
        exact ⟨hd, rfl⟩
  · rintro ⟨hd, rfl⟩
    rw [← hkey]
    exact ⟨_, .resumes hw.stage hd rfl⟩

/-- **WHEN THE TIMER TURNS A PARKED REQUEST AWAY**: its guards have time, its context goes on, no run
permit was handed to it, and the span of the policy, counted from the start of its wait, is over. -/
theorem Wait.asks_timeout_iff (hw : Wait x k t c guards context start) (h : x.Sound) :
    (∃ s0, Asks t c x.scene guards context s0 (.rejected (.timeout false)))
      ↔ Task.dueGuard? x.scene.now guards = none ∧ Task.isOver context x.scene = false
        ∧ (∀ u ∈ x.scene.gate.promised, u.id ≠ k)
        ∧ ∃ d, x.scene.gate.wait = .upTo d ∧ BacklogWait.Elapsed d start x.scene.now := by
  obtain ⟨u, hu, rfl⟩ := hw.waiter? h
  rw [hw.asks_iff h, h.unpromised_iff hu, ← BacklogWait.expired_iff _ _ _]
  refine and_congr_right fun _ => ?_
  have hr := Gate.resume_resumption x.scene.gate hu x.scene.now (Task.isOver context x.scene)
  generalize x.scene.gate.resume k x.scene.now (Task.isOver context x.scene) = out at hr ⊢
  cases hr with
  | ended hd => simp [hd]
  | admitted hd hh => simp [hh]
  | expired hd hh he => simp [hd, hh, he]
  | parked hd hh he => simp [he]

/-! ## §4. Settled sessions. -/

/-- **NOTHING IS LEFT TO DO**: no poll changes anything. -/
def Settled (x : Session) : Prop := ∀ k, x.move (.poll k) = x

/-- The task has ended, or it is parked and nothing that may end its wait has come. -/
def Task.rests (t : Task) (s : Scene) : Bool :=
  match t.stage with
  | .finished => true
  | .parked guards context =>
      (Task.dueGuard? s.now guards).isNone
        && (s.gate.resume t.key s.now (Task.isOver context s)).2 == .parked
  | _ => false

/-- A poll at the gate that leaves a request parked has changed nothing. -/
theorem resume_of_parked {g : Gate} {k : Nat} {now : Duration} {done : Bool}
    (h : (g.resume k now done).2 = .parked) : g.resume k now done = (g, .parked) := by
  cases hu : g.waiter? k with
  | none => simp only [Gate.resume, hu]
  | some u =>
      have hr := Gate.resume_resumption g hu now done
      generalize g.resume k now done = out at hr h ⊢
      cases hr with
      | parked => rfl
      | ended | admitted | expired => cases h

theorem poll_of_rests {t : Task} (hf : Fit t) {s : Scene} (h : t.rests s = true) :
    t.poll s = (t, s) := by
  unfold Task.rests at h
  split at h
  next hst => exact poll_of_finished hst s
  next guards context hst =>
    obtain ⟨hd, hv⟩ := Bool.and_eq_true_iff.mp h
    have hd : Task.dueGuard? s.now guards = none := Option.isNone_iff_eq_none.mp hd
    have hg := resume_of_parked (eq_of_beq hv)
    obtain ⟨c, hc⟩ := hf.parked guards context hst
    rw [(Asks.resumes hst hd hg).poll_eq hc]
    show ({ t with stage := .parked guards context }, s) = (t, s)
    rw [← hst]
  next => cases h

/-- A session has settled if no poll of a task changes anything. -/
theorem settled_of_polls {x : Session} (h : ∀ t ∈ x.tasks, t.poll x.scene = (t, x.scene)) :
    Settled x := by
  intro k
  cases hk : x.tasks[k]? with
  | none => exact onTask_of_none hk _
  | some t =>
      obtain ⟨hlt, he⟩ := List.getElem?_eq_some_iff.mp hk
      show x.onTask k Task.poll = x
      rw [onTask_of_some hk, h t (List.mem_of_getElem? hk)]
      show { x with tasks := x.tasks.set k t } = x
      rw [← he, List.set_getElem_self hlt]

/-- **A SESSION WHOSE TASKS ALL REST HAS SETTLED.** -/
theorem Sound.settled_of_rests (h : x.Sound) (hr : ∀ t ∈ x.tasks, t.rests x.scene = true) :
    Settled x :=
  settled_of_polls fun t ht => poll_of_rests (h.fit t ht) (hr t ht)

/-- **A WAIT THAT GOES ON FOR GOOD REASON**: nothing that may end it has come. -/
structure Going (o : Options) (x : Session) (k : Nat) (c : Call) (guards : List Guard)
    (context : Option Context) (start : Duration) : Prop where
  /-- The span of the policy, counted from the start of the wait, is not over. -/
  patient : ∀ d, o.wait = .upTo d → x.scene.now < start + d
  /-- The policy lets requests wait at all. -/
  waits : o.wait ≠ .upTo .zero
  /-- No guard around it is due. -/
  guarded : ∀ g ∈ guards, x.scene.now < g.deadline
  /-- The context that it waits with goes on. -/
  context : ∀ d, context = some d → d.isDone x.scene.tokens x.scene.now = false
  /-- So does the context that the request came with, and whatever that descends from. -/
  ancestors : ∀ a p, c.ambient = some a → Descends p a →
    p.isDone x.scene.tokens x.scene.now = false
  /-- No run permit was handed to it. -/
  unserved : ∀ u ∈ x.scene.gate.promised, u.id ≠ k

/-- A poll that leaves a parked request as it is has found nothing. -/
theorem Wait.asks_of_settled (hw : Wait x k t c guards context start)
    (hs : x.move (.poll k) = x) : ∃ s0, Asks t c x.scene guards context s0 .parked := by
  have hself : (t.poll x.scene).1 = t := by
    have hafter := getElem?_onTask_self hw.task Task.poll
    rw [show x.onTask k Task.poll = x from hs, hw.task] at hafter
    exact (Option.some.inj hafter).symm
  have hst := hw.stage
  rw [← hself] at hst
  have hturn := turn_poll hw.job x.scene
  generalize t.poll x.scene = out at hturn hst
  cases hturn with
  | idle hi =>
      rw [hw.stage] at hi
      rcases hi with hi | ⟨next, hi⟩ <;> cases hi
  | late => cases hst
  | parks hask =>
      cases hst
      exact ⟨_, hask⟩
  | refused => cases hst
  | keeps => cases hst
  | acts hact =>
      unfold Task.proceed at hst
      split at hst <;> cases hst

theorem Wait.going (hw : Wait x k t c guards context start) (h : x.Sound) {o : Options}
    (ho : x.scene.gate.wait = o.wait) (hequip : Equipped t) (hstart : start ≤ x.scene.now)
    (hs : x.move (.poll k) = x) : Going o x k c guards context start := by
  obtain ⟨s0, hask⟩ := hw.asks_of_settled hs
  obtain ⟨hd, hv⟩ := (hw.asks_iff h .parked).mp ⟨s0, hask⟩
  obtain ⟨u, hu, hsince⟩ := hw.waiter? h
  -- the poll found the request neither done, nor handed a permit, nor out of time
  have hfound : Task.isOver context x.scene = false ∧ u.handed = false
      ∧ x.scene.gate.wait.expired start x.scene.now = false := by
    have hr := Gate.resume_resumption x.scene.gate hu x.scene.now (Task.isOver context x.scene)
    generalize x.scene.gate.resume k x.scene.now (Task.isOver context x.scene) = out at hr hv
    cases hr with
    | parked hd hh he => exact ⟨hd, hh, hsince ▸ he⟩
    | ended | admitted | expired => cases hv
  obtain ⟨hover, hhanded, hexpired⟩ := hfound
  have hpatient : ∀ d, o.wait = .upTo d → x.scene.now < start + d := by
    intro d hwait
    by_contra hle
    have hle : start + d ≤ x.scene.now := Nat.le_of_not_lt hle
    rw [(BacklogWait.expired_iff _ _ _).mpr ⟨d, ho.trans hwait, .inl hle⟩] at hexpired
    cases hexpired
  have hgoing : ∀ d, context = some d → d.isDone x.scene.tokens x.scene.now = false := by
    intro d hd
    rw [hd] at hover
    exact hover
  refine ⟨hpatient, ?_, ?_, hgoing, ?_, ?_⟩
  · intro hzero
    have hlt := hpatient .zero hzero
    have hlt : x.scene.now.nanos < start.nanos + 0 := hlt
    have hle : start.nanos ≤ x.scene.now.nanos := hstart
    omega
  · intro g hg
    have hnot := List.find?_eq_none.mp hd g hg
    exact Nat.lt_of_not_le fun hle => hnot (decide_eq_true hle)
  · intro a p ha hdesc
    obtain ⟨d, hd, hda⟩ := hequip.descends hw.job hw.stage ha
    by_contra hdone
    have hend := (hdesc.trans hda).isDone (by simpa using hdone)
    rw [hgoing d hd] at hend
    cases hend
  · exact (h.unpromised_iff hu).mpr hhanded

end Polls

/-! ## §5. No stuck waiter. -/

/-- **WHO IS PARKED AFTER A RUN**, since when, and how long at most. -/
structure Attended (o : Options) (x₀ : Session) (ms : List Move) : Prop where
  /-- A parked request is parked since its first poll. -/
  began : ∀ k t guards context, (x₀.run ms).tasks[k]? = some t →
    t.stage = .parked guards context → ∃ c start,
      Wait (x₀.run ms) k t c guards context start ∧ BeganAt x₀ ms k start
  /-- The timer runs from the start of the wait. -/
  timer : ∀ k t c guards context start, Wait (x₀.run ms) k t c guards context start →
    ((∃ s0, Asks t c (x₀.run ms).scene guards context s0 (.rejected (.timeout false)))
      ↔ Task.dueGuard? (x₀.run ms).scene.now guards = none
        ∧ Task.isOver context (x₀.run ms).scene = false
        ∧ (∀ u ∈ (x₀.run ms).scene.gate.promised, u.id ≠ k)
        ∧ ∃ d, o.wait = .upTo d ∧ BacklogWait.Elapsed d start (x₀.run ms).scene.now)
  /-- In a settled session every wait goes on for good reason. -/
  settled : (x₀.run ms).Settled → ∀ k t c guards context start,
    Wait (x₀.run ms) k t c guards context start →
      Going o (x₀.run ms) k c guards context start

/-- **NO STUCK WAITER**, in any run over an accepted gate. -/
theorem no_stuck_waiter (o : Options) (g : Gate) (h : Gate.ofOptions o = .ok g) (policy : Policy)
    (site : Site) (metrics : Option Metrics) (ms : List Move) :
    Attended o (ofGate g policy site metrics) ms := by
  have hstart := ofGate_sound h policy site metrics
  have hsound := hstart.run ms
  have hg := Gate.World.eq_of_ofOptions h
  have hwait : ((ofGate g policy site metrics).run ms).scene.gate.wait = o.wait := by
    rw [(hstart.onward_run ms).wait, show (ofGate g policy site metrics).scene.gate = g from rfl, hg]
    rfl
  have hbegan := hstart.beganAt (by rw [hg]; rfl) ms
  constructor
  case began =>
    intro k t guards context hk hst
    obtain ⟨c, start, hw⟩ := hsound.exists_wait hk hst
    exact ⟨c, start, hw, hbegan (k, start) hw.place⟩
  case timer =>
    intro k t c guards context start hw
    rw [hw.asks_timeout_iff hsound, hwait]
  case settled =>
    intro hs k t c guards context start hw
    have hequip := equipped_run rfl ms t (List.mem_of_getElem? hw.task)
    exact hw.going hsound hwait hequip ((hbegan (k, start) hw.place).le hstart) (hs k)

/-- One millisecond before its timer ends a request is parked, and nothing is left to do. -/
theorem no_stuck_waiter_before_timer :
    let x₀ := ofGate (Gate.ofLimits 1 2 (.upTo (.ofMillis 10))) .standard ⟨.zero, none⟩ none
    let ms : List Move :=
      [.tell (.acquire "a" none), .tell (.acquire "b" none), .poll 0, .advance 7,
        .poll 1, .advance 9]
    Gate.ofOptions ((Options.ofLimit 1).withBacklog 1 (.upTo (.ofMillis 10)))
        = .ok (Gate.ofLimits 1 2 (.upTo (.ofMillis 10)))
      ∧ (x₀.run ms).Settled ∧ (x₀.run ms).scene.gate.places = [(1, .ofMillis 7)]
      ∧ Attended ((Options.ofLimit 1).withBacklog 1 (.upTo (.ofMillis 10))) x₀ ms := by
  intro x₀ ms
  have hsound := (ofGate_sound (o := (Options.ofLimit 1).withBacklog 1 (.upTo (.ofMillis 10))) rfl
    .standard ⟨.zero, none⟩ none).run ms
  have hrests : (x₀.run ms).tasks.all (·.rests (x₀.run ms).scene) = true := by decide +kernel
  exact ⟨rfl, hsound.settled_of_rests (List.all_eq_true.mp hrests), by decide +kernel,
    no_stuck_waiter _ _ rfl _ _ _ ms⟩

end Admission.Session

/-
  Admission.Proofs.Session.Silence — polls that show nothing.

  A poll that shows nothing leaves its task where it STAYS: another poll would change nothing.  Nor
  does it disturb a task that stays; it may take permits and places, but it gives none.  So after a
  round in which nothing is shown, no poll of any task changes anything.

  Main results:
    * `poll_of_stays` — a task that stays is left alone by its polls;
    * `silent_poll` — what a poll that shows nothing comes to;
    * `Sound.settled_of_silent` — **a round that shows nothing leaves a settled session**.
-/
import Admission.Proofs.Session.Driven
import Admission.Proofs.Session.Handlers
import Admission.Proofs.Session.Waiting

namespace Admission

/-! ## §1. Places that others leave alone. -/

namespace Gate

theorem waiter?_park_of_ne {g : Gate} {j k : Nat} (h : j ≠ k) (now : Duration) :
    (g.park k now).waiter? j = g.waiter? j := by
  show (g.waiters ++ [(⟨k, now, false⟩ : Waiter)]).find? (fun w => w.id == j) = _
  rw [List.find?_append]
  have hnone : [(⟨k, now, false⟩ : Waiter)].find? (fun w => w.id == j) = none := by
    simpa using Ne.symm h
  rw [hnone, Option.or_none]
  rfl

theorem waiter?_unpark_of_ne {g : Gate} {j k : Nat} (h : j ≠ k) :
    (g.unpark k).waiter? j = g.waiter? j := by
  show (g.waiters.filter fun w => w.id != k).find? (fun w => w.id == j) = _
  rw [List.find?_filter]
  unfold waiter?
  congr 1
  funext w
  by_cases hw : w.id = j
  · simp [hw, h]
  · simp [hw]

end Gate

namespace Session

open Gate (Balanced)

/-! ## §2. Tasks that stay as they are. -/

/-- A handler waits for a permit that is not there, or for an instant to come. -/
inductive Blocked (name : String) (s : Scene) : List Action → Prop where
  | permit (rest : List Action) (h : s.takePermit? name = none) :
      Blocked name s (.awaitPermit :: rest)
  | sleep {u : Duration} (rest : List Action) (h : ¬ u ≤ s.now) :
      Blocked name s (.sleepUntil u :: rest)

/-- **THE TASK STAYS AS IT IS**, and the scene with it, if it is polled. -/
inductive Stays (t : Task) (s : Scene) : Prop where
  | ended (h : t.stage = .finished)
  | parked {c : Call} {guards : List Guard} {context : Option Context} {u : Waiter}
      (hc : t.job = .call c) (hst : t.stage = .parked guards context)
      (hd : Task.dueGuard? s.now guards = none) (hu : s.gate.waiter? t.key = some u)
      (hover : Task.isOver context s = false) (hh : u.handed = false)
      (he : s.gate.wait.expired u.since s.now = false)
  | running {c : Call} {guards : List Guard} {todo : List Action} (hc : t.job = .call c)
      (hst : t.stage = .running guards todo) (hd : Task.dueGuard? s.now guards = none)
      (hb : Blocked t.name s todo)
  | watching {c : Context} (hj : t.job = .watch c) (h : c.isDone s.tokens s.now = false)
  | reporting {interval next : Duration} (hj : t.job = .report interval)
      (hst : t.stage = .reporting next) (h : ¬ next ≤ s.now)
  | astray {c : Call} {next : Duration} (hc : t.job = .call c) (hst : t.stage = .reporting next)

theorem Blocked.perform_eq {name : String} {s : Scene} {todo : List Action}
    (h : Blocked name s todo) : s.perform name todo = (todo, s) := by
  cases h with
  | permit rest hp =>
      unfold Scene.perform
      rw [hp]
  | sleep rest hu =>
      unfold Scene.perform
      rw [if_neg hu]

theorem poll_of_stays {t : Task} {s : Scene} (h : Stays t s) : t.poll s = (t, s) := by
  -- for each reason to stay, the poll is taken through its branch
  cases h with
  | ended h => exact poll_of_finished h s
  | @parked c guards context u hc hst hd hu hover hh he =>
      have hg : s.gate.resume t.key s.now (Task.isOver context s) = (s.gate, .parked) := by
        unfold Gate.resume
        rw [hu]
        simp only [hover, hh, he, Bool.false_eq_true, if_false]
      rw [(Asks.resumes hst hd hg).poll_eq hc]
      show ({ t with stage := .parked guards context }, s) = (t, s)
      rw [← hst]
  | @running c guards todo hc hst hd hb =>
      rw [(Acts.goesOn hst hd).poll_eq hc]
      unfold Task.proceed
      rw [hb.perform_eq]
      have hself : ({ t with stage := .running guards todo }, s) = (t, s) := by rw [← hst]
      cases hb <;> exact hself
  | @watching c hj hd =>
      by_cases hn : t.stage = .finished
      · exact poll_of_finished hn s
      · rw [poll_watch hj hn, hd]
        rfl
  | reporting hj hst hn => rw [poll_report hj hst, if_neg hn]
  | astray hc hst =>
      unfold Task.poll
      rw [hc, hst]

/-! ## §3. Polls that show nothing. -/

theorem takePermit?_eq_none_iff {s : Scene} {name : String} :
    s.takePermit? name = none ↔ ∀ n, s.permits.lookup name ≠ some (n + 1) := by
  unfold Scene.takePermit?
  cases s.permits.lookup name with
  | none => simp
  | some n => cases n <;> simp

/-- **WHAT A SILENT POLL OF TASK `k` DOES NOT DISTURB.** -/
structure Hush (k : Nat) (s s' : Scene) : Prop where
  now : s'.now = s.now
  wait : s'.gate.wait = s.gate.wait
  /-- All others keep their places, and none of them is handed a permit. -/
  waiters : ∀ j, j ≠ k → s'.gate.waiter? j = s.gate.waiter? j
  /-- No handler is given a permit. -/
  permits : ∀ name, (∀ n, s.permits.lookup name ≠ some (n + 1)) →
    ∀ n, s'.permits.lookup name ≠ some (n + 1)
  cancelled : s'.tokens.cancelled = s.tokens.cancelled

namespace Hush

variable {k : Nat} {s s' s'' : Scene}

theorem refl (k : Nat) (s : Scene) : Hush k s s := ⟨rfl, rfl, fun _ _ => rfl, fun _ h => h, rfl⟩

theorem trans (h : Hush k s s') (h' : Hush k s' s'') : Hush k s s'' :=
  ⟨h'.now.trans h.now, h'.wait.trans h.wait, fun j hj => (h'.waiters j hj).trans (h.waiters j hj),
    fun name hn => h'.permits name (h.permits name hn), h'.cancelled.trans h.cancelled⟩

theorem isCancelled_eq (h : Hush k s s') (τ : Token) :
    τ.isCancelled s'.tokens = τ.isCancelled s.tokens := by
  unfold Token.isCancelled
  rw [h.cancelled]

theorem isDone_eq (h : Hush k s s') (c : Context) :
    c.isDone s'.tokens s'.now = c.isDone s.tokens s.now := by
  unfold Context.isDone
  rw [h.isCancelled_eq, h.now]

theorem isOver_eq (h : Hush k s s') (context : Option Context) :
    Task.isOver context s' = Task.isOver context s := by
  cases context with
  | none => rfl
  | some c => exact h.isDone_eq c

/-- **NOBODY ELSE IS DISTURBED.** -/
theorem stays (h : Hush k s s') {t : Task} (hne : t.key ≠ k) (ht : Stays t s) : Stays t s' := by
  cases ht with
  | ended hst => exact .ended hst
  | parked hc hst hd hu hover hh he =>
      refine .parked hc hst ?_ ((h.waiters _ hne).trans hu) ((h.isOver_eq _).trans hover) hh ?_
      · rw [h.now]
        exact hd
      · rw [h.wait, h.now]
        exact he
  | running hc hst hd hb =>
      refine .running hc hst (by rw [h.now]; exact hd) ?_
      cases hb with
      | permit rest hp =>
          exact .permit rest (takePermit?_eq_none_iff.mpr
            (h.permits _ (takePermit?_eq_none_iff.mp hp)))
      | sleep rest hu => exact .sleep rest (by rw [h.now]; exact hu)
  | watching hj hd => exact .watching hj ((h.isDone_eq _).trans hd)
  | reporting hj hst hn => exact .reporting hj hst (by rw [h.now]; exact hn)
  | astray hc hst => exact .astray hc hst

end Hush

/-! ### What a handler takes. -/

theorem lookup_assign {α : Type} (name other : String) (a : α) (l : List (String × α)) :
    (Scene.assign name a l).lookup other = if other = name then some a else l.lookup other := by
  have hcons : ∀ (n : String) (v : α) (rest : List (String × α)),
      ((n, v) :: rest).lookup other = if other = n then some v else rest.lookup other := by
    intro n v rest
    rw [List.lookup_cons]
    by_cases h : other = n
    · simp [h]
    · simp [h, beq_eq_false_iff_ne.mpr h]
  induction l with
  | nil => exact hcons name a []
  | cons p rest ih =>
      obtain ⟨n, v⟩ := p
      unfold Scene.assign
      split
      next hn =>
        rw [hcons, hcons, hn]
        split <;> rfl
      next hn =>
        -- the name is further down, so it is not that of the head
        rw [hcons, hcons, ih]
        by_cases h : other = n
        · rw [if_pos h, if_pos h, if_neg fun he => hn (h.symm.trans he)]
        · rw [if_neg h, if_neg h]

/-- A permit that is not there does not come by another one's being taken. -/
theorem hush_of_taken (k : Nat) {s s' : Scene} {name : String} (h : s.takePermit? name = some s') :
    Hush k s s' := by
  unfold Scene.takePermit? at h
  split at h
  next n hl =>
    cases h
    refine ⟨rfl, rfl, fun _ _ => rfl, fun other ho m => ?_, rfl⟩
    rw [lookup_assign]
    split
    next he =>
      rw [he] at ho
      exact absurd hl (ho n)
    next => exact ho m
  next => cases h

/-- **WHERE A HANDLER STOPS**: it has nothing left to do, or it is blocked. -/
theorem hush_perform (k : Nat) (name : String) (todo : List Action) (s : Scene) :
    Hush k s (s.perform name todo).2
      ∧ ((s.perform name todo).1 = []
        ∨ Blocked name (s.perform name todo).2 (s.perform name todo).1) := by
  induction todo generalizing s with
  | nil => exact ⟨.refl k s, .inl rfl⟩
  | cons a rest ih =>
      -- an action is taken up, or the handler is blocked at it
      cases a with
      | announce =>
          have hnext := ih (s.emit (.started name))
          exact ⟨⟨hnext.1.now, hnext.1.wait, hnext.1.waiters, hnext.1.permits, hnext.1.cancelled⟩,
            hnext.2⟩
      | awaitPermit =>
          unfold Scene.perform
          cases hp : s.takePermit? name with
          | none => exact ⟨.refl k s, .inr (.permit rest hp)⟩
          | some s' => exact ⟨(hush_of_taken k hp).trans (ih s').1, (ih s').2⟩
      | sleep d =>
          unfold Scene.perform
          split
          next => exact ih s
          next hd => exact ⟨.refl k s, .inr (.sleep rest hd)⟩
      | sleepUntil u =>
          unfold Scene.perform
          split
          next => exact ih s
          next hu => exact ⟨.refl k s, .inr (.sleep rest hu)⟩

/-! ### What a request takes that asks. -/

section Stations

variable {t : Task} {c : Call} {s s0 : Scene} {guards : List Guard} {context : Option Context}
  {v : Verdict} {todo : List Action}

theorem dueGuard?_eq_none {now : Duration} {guards : List Guard}
    (h : ∀ d ∈ guards.map (·.deadline), ¬ d ≤ now) : Task.dueGuard? now guards = none := by
  refine List.find?_eq_none.mpr fun g hg hd => ?_
  exact h g.deadline (List.mem_map_of_mem hg) (of_decide_eq_true hd)

/-- No guard of a request that asks is due. -/
theorem Asks.dueGuard?_eq (h : Asks t c s guards context s0 v) :
    Task.dueGuard? s.now guards = none := by
  cases h with
  | enters hf ha hn =>
      refine dueGuard?_eq_none fun d hd hle => ?_
      subst ha
      rw [deadlines_arm c.timeouts c.ambient s.tokens hn] at hd
      obtain ⟨span, hspan, rfl⟩ := List.mem_map.mp hd
      rw [(fired_arm_iff s.now c.timeouts c.ambient s.tokens).mpr ⟨span, hspan, hle⟩] at hn
      cases hn
  | resumes hst hd => exact hd

/-- A request that is admitted or parked disturbs nobody. -/
theorem Asks.hush (h : Asks t c s guards context s0 v) (hp : Placed s.gate t)
    (hv : ∀ reason, v ≠ .rejected reason) : Hush t.key s s0 := by
  cases h with
  | @enters a g _ hf ha hn hg =>
      -- new guards make tokens, and cancel none unless one of them fires at once
      have hcancelled : a.tokens.cancelled = s.tokens.cancelled := by
        have hsprouted := sprouted_arm s.now c.timeouts c.ambient s.tokens
        rw [ha] at hsprouted
        exact hsprouted.untouched hn
      have he := Gate.enter_entry s.gate (hp.notMem_waiters hf) s.now
        (Task.isOver a.context { s with tokens := a.tokens })
      rw [hg] at he
      cases he with
      | ended | full | impatient => exact absurd rfl (hv _)
      | admitted => exact ⟨rfl, rfl, fun _ _ => rfl, fun _ hn => hn, hcancelled⟩
      | parked =>
          exact ⟨rfl, rfl, fun j hj => Gate.waiter?_park_of_ne hj s.now, fun _ hn => hn, hcancelled⟩
  | @resumes _ _ g _ hst hd hg =>
      obtain ⟨u, hu⟩ := exists_waiter_of_placed hp hst
      have hid := Gate.id_of_waiter? hu
      have hr := Gate.resume_resumption s.gate hu s.now (Task.isOver context s)
      rw [hg] at hr
      cases hr with
      | ended | expired => exact absurd rfl (hv _)
      | admitted =>
          refine ⟨rfl, rfl, fun j hj => ?_, fun _ hn => hn, rfl⟩
          exact Gate.waiter?_unpark_of_ne (hid ▸ hj)
      | parked => exact .refl _ s

/-- A request that is parked stays so. -/
theorem Asks.stays (h : Asks t c s guards context s0 .parked) (hp : Placed s.gate t)
    (hc : t.job = .call c) : Stays { t with stage := .parked guards context } s0 := by
  have hdue := h.dueGuard?_eq
  cases h with
  | @enters a g _ hf ha hn hg =>
      have hw := hp.notMem_waiters hf
      have he := Gate.enter_entry s.gate hw s.now
        (Task.isOver a.context { s with tokens := a.tokens })
      rw [hg] at he
      cases he with
      | parked hd hb hr hx =>
          exact .parked hc rfl hdue (Gate.waiter?_park hw s.now) hd rfl hx
  | @resumes _ _ g _ hst hd hg =>
      obtain ⟨u, hu⟩ := exists_waiter_of_placed hp hst
      have hr := Gate.resume_resumption s.gate hu s.now (Task.isOver context s)
      rw [hg] at hr
      cases hr with
      | parked hover hh hx => exact .parked hc rfl hdue hu hover hh hx

theorem Acts.hush (h : Acts t c s guards todo s0) (hp : Placed s.gate t) :
    Hush t.key s s0 ∧ Task.dueGuard? s0.now guards = none := by
  cases h with
  | @begins context s1 hask hr =>
      have hh := hask.hush hp (fun _ => nofun)
      refine ⟨⟨hh.now, hh.wait, hh.waiters, hh.permits, hh.cancelled⟩, ?_⟩
      show Task.dueGuard? s1.now guards = none
      rw [hh.now]
      exact hask.dueGuard?_eq
  | goesOn hst hd => exact ⟨.refl _ s, hd⟩

end Stations

/-! ### What a silent poll comes to. -/

/-- A reporter that reports has an interval. -/
def Ticking (t : Task) : Prop :=
  ∀ interval next, t.job = .report interval → t.stage = .reporting next → interval.nanos ≠ 0

theorem lt_nextReport {interval : Duration} (h : interval.nanos ≠ 0) (next now : Duration) :
    ¬ Task.nextReport interval next now ≤ now := by
  have hlt := Nat.lt_mul_div_succ (now.nanos - next.nanos) (Nat.pos_of_ne_zero h)
  intro hle
  have hle : next.nanos + interval.nanos * ((now.nanos - next.nanos) / interval.nanos + 1)
      ≤ now.nanos := hle
  omega

/-- A poll that has shown an event was not silent. -/
theorem not_silent {s s0 : Scene} (hlog : s0.log = s.log) {es : List Event} (h : es ≠ []) :
    ¬ (s0.log ++ es).length = s.log.length := by
  rw [List.length_append, hlog]
  have hpos := List.length_pos_of_ne_nil h
  omega

/-- A poll of a throttled request that shows nothing parks it, or suspends its handler. -/
theorem silent_turn {t : Task} {c : Call} {s : Scene} {out : Task × Scene} (h : Turn t c s out)
    (hp : Placed s.gate t) (hf : Fit t) (hj : t.job = .call c) (hn : t.stage ≠ .finished)
    (hs : out.2.log.length = s.log.length) : Hush t.key s out.2 ∧ Stays out.1 out.2 := by
  -- in every other turn something is shown
  cases h with
  | idle hi =>
      obtain ⟨next, hi⟩ := hi.resolve_left hn
      exact ⟨.refl _ s, .astray hj hi⟩
  | late hfire => exact absurd hs (not_silent hfire.log_eq (List.cons_ne_nil _ _))
  | parks hask => exact ⟨hask.hush hp (fun _ => nofun), hask.stays hp hj⟩
  | refused hask => exact absurd hs (not_silent hask.log_eq (List.cons_ne_nil _ _))
  | keeps hask => exact absurd hs (not_silent (hask.log_kept t.name t.key) (List.cons_ne_nil _ _))
  | @acts guards todo s0 hact =>
      obtain ⟨hhush, hdue⟩ := hact.hush hp
      obtain ⟨htaken, hleft⟩ := hush_perform t.key t.name todo s0
      have hpro := progress_proceed t c guards s0 (hact.quiet hf hj)
      generalize t.proceed c guards todo s0 = out at hpro hs ⊢
      cases hpro with
      | @suspended left permits hl _ hperform =>
          rw [hperform] at htaken hleft
          exact ⟨hhush.trans htaken, .running hj rfl hdue (hleft.resolve_left hl)⟩
      | ended =>
          have hs : (s0.log ++ opening t.name todo
            ++ [Task.endingEvent t.name c.reply c.script.ending]).length = s.log.length := hs
          rw [List.append_assoc] at hs
          exact absurd hs (not_silent hact.log_eq (by simp))

/-- A poll of a reporter leaves it waiting for its next report, or at its end. -/
theorem silent_report {t : Task} {interval : Duration} (hj : t.job = .report interval)
    (hn : t.stage ≠ .finished) (htick : Ticking t) (s : Scene) :
    Hush t.key s (t.poll s).2 ∧ Stays (t.poll s).1 (t.poll s).2 := by
  rcases reporting_or_not t with ⟨next, hr⟩ | hr
  · rw [poll_report hj hr]
    split
    · exact ⟨⟨rfl, rfl, fun _ _ => rfl, fun _ h => h, rfl⟩,
        .reporting hj rfl (lt_nextReport (htick interval next hj hr) next s.now)⟩
    next hle => exact ⟨.refl _ s, .reporting hj hr hle⟩
  · rw [poll_report_first hj hn hr]
    split
    · exact ⟨.refl _ s, .ended rfl⟩
    next hzero =>
      refine ⟨⟨rfl, rfl, fun _ _ => rfl, fun _ h => h, rfl⟩, .reporting hj rfl fun hle => ?_⟩
      have hle : s.now.nanos + interval.nanos ≤ s.now.nanos := hle
      omega

/-- **A POLL THAT SHOWS NOTHING** disturbs nobody, and leaves its task where it stays. -/
theorem silent_poll {t : Task} {s : Scene} (hp : Placed s.gate t) (hf : Fit t) (htick : Ticking t)
    (hs : (t.poll s).2.log.length = s.log.length) :
    Hush t.key s (t.poll s).2 ∧ Stays (t.poll s).1 (t.poll s).2 := by
  by_cases hn : t.stage = .finished
  · rw [poll_of_finished hn]
    exact ⟨.refl _ s, .ended hn⟩
  cases hj : t.job with
  | call c => exact silent_turn (turn_poll hj s) hp hf hj hn hs
  | free r =>
      rw [poll_free hj hn] at hs
      exact absurd hs (not_silent rfl (List.cons_ne_nil _ _))
  | watch c =>
      rw [poll_watch hj hn] at hs ⊢
      split at hs
      · exact absurd hs (not_silent rfl (List.cons_ne_nil _ _))
      next hd =>
        rw [if_neg hd]
        exact ⟨.refl _ s, .watching hj (by simpa using hd)⟩
  | report interval => exact silent_report hj hn htick s

/-! ## §4. Rounds that show nothing. -/

theorem job_poll (t : Task) (s : Scene) : (t.poll s).1.job = t.job := by
  rcases call_or_not t with ⟨c, hc⟩ | hj
  · have hturn := turn_poll hc s
    generalize t.poll s = out at hturn ⊢
    cases hturn with
    | idle | late | parks | refused | keeps => rfl
    | acts =>
        unfold Task.proceed
        split <;> rfl
  · have haside := aside_poll hj s
    generalize t.poll s = out at haside ⊢
    cases haside <;> rfl

theorem ticking_poll (t : Task) (s : Scene) (h : Ticking t) : Ticking (t.poll s).1 := by
  intro interval next hj hst
  rw [job_poll] at hj
  by_cases hn : t.stage = .finished
  · rw [poll_of_finished hn, hn] at hst
    cases hst
  rcases reporting_or_not t with ⟨next', hr⟩ | hr
  · exact h interval next' hj hr
  · rw [poll_report_first hj hn hr] at hst
    split at hst
    · cases hst
    next hzero => exact hzero

theorem ticking_run {x : Session} (h : ∀ t ∈ x.tasks, Ticking t) (ms : List Move) :
    ∀ t ∈ (x.run ms).tasks, Ticking t := by
  induction ms using List.reverseRecOn with
  | nil => exact h
  | append_singleton ms m ih =>
      rw [run_concat]
      refine forall_tasks_move ?_ ticking_poll ?_ ih m
      · intro t hfresh interval next _ hst
        rw [hfresh] at hst
        cases hst
      · intro t _ interval next _ hst
        cases hst

theorem length_pollAll (ts : List Task) (s : Scene) : (pollAll ts s).1.length = ts.length := by
  induction ts generalizing s with
  | nil => rfl
  | cons t rest ih => exact congrArg (· + 1) (ih _)

section Rounds

variable {x : Session}

/-- What was shown stays. -/
theorem Sound.exists_log_poll (h : x.Sound) (k : Nat) :
    ∃ es, (x.move (.poll k)).scene.log = x.scene.log ++ es := by
  cases hk : x.tasks[k]? with
  | none =>
      rw [show x.move (.poll k) = x from onTask_of_none hk Task.poll]
      exact ⟨[], (List.append_nil _).symm⟩
  | some t =>
      rw [scene_move_poll hk]
      rcases h.polled hk with hd | ⟨c, guards, context, s0, hc, hask, hr, hd, he⟩
      · exact hd.log
      · rw [he]
        exact ⟨[_], congrArg (· ++ [_]) (hask.log_kept t.name t.key)⟩

theorem Sound.length_log_polls (h : x.Sound) (ks : List Nat) :
    x.scene.log.length ≤ (x.run (ks.map .poll)).scene.log.length := by
  induction ks generalizing x with
  | nil => exact Nat.le_refl _
  | cons k ks ih =>
      obtain ⟨es, hes⟩ := h.exists_log_poll k
      have hnext := ih (h.move (.poll k))
      rw [hes, List.length_append] at hnext
      exact Nat.le_trans (Nat.le_add_right _ _) hnext

/-- Where the first `n` tasks stay, one more silent poll makes the next one stay. -/
theorem Sound.stays_poll (h : x.Sound) (htick : ∀ t ∈ x.tasks, Ticking t) {n : Nat}
    (hs : (x.move (.poll n)).scene.log.length = x.scene.log.length)
    (hstays : ∀ j < n, ∀ t, x.tasks[j]? = some t → Stays t x.scene) :
    ∀ j < n + 1, ∀ t, (x.move (.poll n)).tasks[j]? = some t →
      Stays t (x.move (.poll n)).scene := by
  intro j hj t ht
  cases hn : x.tasks[n]? with
  | none =>
      rw [show x.move (.poll n) = x from onTask_of_none hn Task.poll] at ht ⊢
      by_cases hjn : j = n
      · rw [hjn, hn] at ht
        cases ht
      · exact hstays j (by omega) t ht
  | some u =>
      have hmem := List.mem_of_getElem? hn
      rw [scene_move_poll hn] at hs ⊢
      obtain ⟨hhush, hself⟩ := silent_poll (h.placed u hmem) (h.fit u hmem) (htick u hmem) hs
      by_cases hjn : j = n
      · have hu := getElem?_onTask_self hn Task.poll
        rw [hjn] at ht
        rw [← Option.some.inj (hu.symm.trans ht)]
        exact hself
      · -- it stayed before, and the poll of another task has not disturbed it
        have ht : (x.onTask n Task.poll).tasks[j]? = some t := ht
        rw [getElem?_onTask_of_ne (Ne.symm hjn)] at ht
        refine hhush.stays ?_ (hstays j (by omega) t ht)
        rw [h.keyed j t ht, h.keyed n u hn]
        exact hjn

/-- After silent polls of the first `n` tasks these stay as they are. -/
theorem Sound.stays_of_silent (h : x.Sound) (htick : ∀ t ∈ x.tasks, Ticking t) (n : Nat)
    (hs : (x.run ((List.range n).map .poll)).scene.log.length = x.scene.log.length) :
    ∀ j < n, ∀ t, (x.run ((List.range n).map .poll)).tasks[j]? = some t →
      Stays t (x.run ((List.range n).map .poll)).scene := by
  induction n with
  | zero => exact fun j hj => absurd hj (Nat.not_lt_zero j)
  | succ n ih =>
      have hrun : x.run ((List.range (n + 1)).map .poll)
          = (x.run ((List.range n).map .poll)).move (.poll n) := by
        rw [List.range_succ, List.map_append, List.map_singleton, run_concat]
      have hbefore := h.run ((List.range n).map .poll)
      have hlower := h.length_log_polls (List.range n)
      rw [hrun] at hs ⊢
      -- what is shown stays, so each of the polls was silent
      obtain ⟨es, hes⟩ := hbefore.exists_log_poll n
      have hlog : (x.run ((List.range n).map .poll)).scene.log.length = x.scene.log.length := by
        rw [hes, List.length_append] at hs
        omega
      exact hbefore.stays_poll (ticking_run htick _) (hs.trans hlog.symm) (ih hlog)

/-- **A ROUND THAT SHOWS NOTHING LEAVES A SETTLED SESSION.** -/
theorem Sound.settled_of_silent (h : x.Sound) (htick : ∀ t ∈ x.tasks, Ticking t)
    (hs : x.round.scene.log.length = x.scene.log.length) : x.round.Settled := by
  rw [round_eq_run, ← List.range_eq_range'] at hs ⊢
  refine settled_of_polls fun t ht => poll_of_stays ?_
  obtain ⟨j, hj⟩ := List.mem_iff_getElem?.mp ht
  refine h.stays_of_silent htick x.tasks.length hs j ?_ t hj
  have hlen : (x.run ((List.range x.tasks.length).map .poll)).tasks.length = x.tasks.length := by
    rw [List.range_eq_range', ← round_eq_run]
    exact length_pollAll x.tasks x.scene
  exact hlen ▸ (List.getElem?_eq_some_iff.mp hj).1

end Rounds

end Session

end Admission

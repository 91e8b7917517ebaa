/-
  Admission.Proofs.Session.Settling — settling comes to an end.

  A session settles in rounds, until a round shows nothing new.  Such a round comes, as a task shows
  two events at most: what a poll shows, the task cannot show again.  So every command leaves a
  settled session, in which nobody is parked without good reason.

  Main results:
    * `rank_poll` — what a poll shows counts against its task;
    * `Sound.settled_settle` — **whoever settles has settled**;
    * `Sound.settled_step` — and so has every session after a command;
    * `going_after_command` — **whoever is parked after a command waits for good reason**.
-/
import Mathlib.Algebra.Order.BigOperators.Group.List
import Mathlib.Algebra.Order.Ring.Nat
import Admission.Proofs.Session.Silence
import Admission.Proofs.Session.Waiting

namespace Admission

namespace Session

/-! ## §1. How much can be shown. -/

/-- How many events a task can still show. -/
def Task.rank (t : Task) : Nat :=
  match t.job, t.stage with
  | _, .finished => 0
  | .report _, _ => 0
  | .call _, .running _ _ => 1
  | _, _ => 2

theorem rank_le (t : Task) : t.rank ≤ 2 := by
  unfold Task.rank
  split <;> omega

theorem rank_finish (t : Task) : t.finish.rank = 0 := by
  unfold Task.rank Task.finish
  cases t.job <;> rfl

theorem rank_of_running {t : Task} {c : Call} (hc : t.job = .call c) {guards : List Guard}
    {todo : List Action} (hst : t.stage = .running guards todo) : t.rank = 1 := by
  unfold Task.rank
  rw [hc, hst]

/-- A request that asks has shown nothing yet. -/
theorem Asks.rank_eq {t : Task} {c : Call} {s s0 : Scene} {guards : List Guard}
    {context : Option Context} {v : Verdict} (h : Asks t c s guards context s0 v)
    (hc : t.job = .call c) : t.rank = 2 := by
  unfold Task.rank
  cases h with
  | enters hst | resumes hst => rw [hc, hst]

theorem Asks.rank_pos {t : Task} {c : Call} {s s0 : Scene} {guards : List Guard}
    {context : Option Context} {v : Verdict} (h : Asks t c s guards context s0 v)
    (hc : t.job = .call c) : 1 ≤ t.rank := by
  rw [h.rank_eq hc]
  exact Nat.le_succ 1

theorem Fires.rank_pos {t : Task} {c : Call} {s s0 : Scene} (h : Fires t c s s0)
    (hc : t.job = .call c) : 1 ≤ t.rank := by
  unfold Task.rank
  cases h with
  | atOnce hst | parked hst =>
      rw [hc, hst]
      exact Nat.le_succ 1
  | running hst => rw [hc, hst]

theorem length_opening (name : String) (todo : List Action) : (opening name todo).length ≤ 1 := by
  unfold opening
  split
  · exact Nat.le_refl _
  · exact Nat.zero_le _

theorem rank_pos_of_aside {t : Task} (hj : (∃ r, t.job = .free r) ∨ ∃ c, t.job = .watch c)
    (hn : t.stage ≠ .finished) : 1 ≤ t.rank := by
  have htwo : t.rank = 2 := by
    unfold Task.rank
    rcases hj with ⟨r, hj⟩ | ⟨c, hj⟩ <;> rw [hj] <;> cases hst : t.stage
    all_goals first | rfl | exact absurd hst hn
  rw [htwo]
  exact Nat.le_succ 1

/-- A reporter shows nothing. -/
theorem log_poll_report {t : Task} {interval : Duration} (hj : t.job = .report interval)
    (s : Scene) : (t.poll s).2.log = s.log := by
  by_cases hn : t.stage = .finished
  · rw [poll_of_finished hn]
  rcases reporting_or_not t with ⟨next, hr⟩ | hr
  · rw [poll_report hj hr]
    split <;> rfl
  · rw [poll_report_first hj hn hr]
    split <;> rfl

/-- A task that ends with one event. -/
theorem rank_of_ending {t : Task} {s s0 : Scene} {e : Event} (hlog : s0.log = s.log)
    (hr : 1 ≤ t.rank) :
    (s0.emit e).log.length + t.finish.rank ≤ s.log.length + t.rank := by
  show (s0.log ++ [e]).length + t.finish.rank ≤ _
  rw [List.length_append, List.length_singleton, rank_finish, hlog]
  omega

/-- A handler that goes on. -/
theorem Acts.rank_proceed {t : Task} {c : Call} {s s0 : Scene} {guards : List Guard}
    {todo : List Action} (h : Acts t c s guards todo s0) (hc : t.job = .call c) (hf : Fit t) :
    (t.proceed c guards todo s0).2.log.length + (t.proceed c guards todo s0).1.rank
      ≤ s.log.length + t.rank := by
  have hq := h.quiet hf hc
  -- a handler that runs has announced itself before
  have hrank : (opening t.name todo).length + 1 ≤ t.rank := by
    cases h with
    | begins hask =>
        have hlen := length_opening t.name c.script.actions
        rw [hask.rank_eq hc]
        omega
    | goesOn hst =>
        rw [opening_of_notMem (hf.running _ _ hst).1, rank_of_running hc hst]
        exact Nat.le_refl 1
  have hlog := h.log_eq
  have hpro := progress_proceed t c guards s0 hq
  generalize t.proceed c guards todo s0 = out at hpro ⊢
  cases hpro with
  | @suspended left =>
      rw [rank_of_running (t := { t with stage := .running guards left }) hc rfl]
      show (s0.log ++ opening t.name todo).length + 1 ≤ _
      rw [List.length_append, hlog]
      omega
  | ended =>
      show (s0.log ++ opening t.name todo ++ [_]).length + t.finish.rank ≤ _
      rw [List.length_append, List.length_append, hlog, List.length_singleton, rank_finish]
      omega

/-- **WHAT A POLL SHOWS** the task cannot show again. -/
theorem rank_poll {t : Task} (hf : Fit t) (s : Scene) :
    (t.poll s).2.log.length + (t.poll s).1.rank ≤ s.log.length + t.rank := by
  by_cases hn : t.stage = .finished
  · rw [poll_of_finished hn]
  cases hj : t.job with
  | call c =>
      have hturn := turn_poll hj s
      generalize t.poll s = out at hturn ⊢
      cases hturn with
      | idle => exact Nat.le_refl _
      | late hfire => exact rank_of_ending hfire.log_eq (hfire.rank_pos hj)
      | parks hask =>
          rw [hask.rank_eq hj, hask.log_eq]
          exact Nat.add_le_add_left (rank_le _) _
      | refused hask => exact rank_of_ending hask.log_eq (hask.rank_pos hj)
      | keeps hask => exact rank_of_ending (hask.log_kept t.name t.key) (hask.rank_pos hj)
      | acts hact => exact hact.rank_proceed hj hf
  | free r =>
      rw [poll_free hj hn]
      exact rank_of_ending rfl (rank_pos_of_aside (.inl ⟨r, hj⟩) hn)
  | watch c =>
      rw [poll_watch hj hn]
      split
      · exact rank_of_ending rfl (rank_pos_of_aside (.inr ⟨c, hj⟩) hn)
      · exact Nat.le_refl _
  | report interval =>
      -- a reporter never shows anything, so it has no rank to lose
      have hzero : ∀ u : Task, u.job = t.job → u.rank = 0 := by
        intro u hu
        unfold Task.rank
        rw [hu, hj]
        cases u.stage <;> rfl
      rw [hzero _ (job_poll t s), Nat.add_zero, hzero t rfl, Nat.add_zero]
      exact Nat.le_of_eq (congrArg List.length (log_poll_report hj s))

theorem rank_pollAll {ts : List Task} (hf : ∀ t ∈ ts, Fit t) (s : Scene) :
    (pollAll ts s).2.log.length + ((pollAll ts s).1.map (·.rank)).sum
      ≤ s.log.length + (ts.map (·.rank)).sum := by
  induction ts generalizing s with
  | nil => exact Nat.le_refl _
  | cons t rest ih =>
      have hhead := rank_poll (hf t List.mem_cons_self) s
      have htail := ih (fun u hu => hf u (List.mem_cons_of_mem t hu)) (t.poll s).2
      show (pollAll rest (t.poll s).2).2.log.length
        + (((t.poll s).1 :: (pollAll rest (t.poll s).2).1).map (·.rank)).sum ≤ _
      rw [List.map_cons, List.map_cons, List.sum_cons, List.sum_cons]
      omega

/-! ## §2. Settling. -/

/-- How many events can still be shown. -/
def rank (x : Session) : Nat := (x.tasks.map (·.rank)).sum

theorem rank_le_twice (x : Session) : x.rank ≤ 2 * x.tasks.length := by
  have hsum := List.sum_le_card_nsmul (x.tasks.map (·.rank)) 2 fun r hr => by
    obtain ⟨t, -, rfl⟩ := List.mem_map.mp hr
    exact rank_le t
  rwa [List.length_map, Nat.nsmul_eq_mul, Nat.mul_comm] at hsum

/-- **AS MANY ROUNDS AS THERE CAN BE EVENTS**, and one more, settle a session. -/
theorem Sound.settled_settleWithin {n : Nat} {x : Session} (h : x.Sound)
    (htick : ∀ t ∈ x.tasks, Ticking t) (hn : x.rank < n) : (settleWithin n x).Settled := by
  induction n generalizing x with
  | zero => exact absurd hn (Nat.not_lt_zero _)
  | succ n ih =>
      unfold settleWithin
      simp only
      split
      next hs => exact h.settled_of_silent htick hs
      next hs =>
        -- the round has shown an event, so there is one less to show
        have hround := round_eq_run x
        have hrank : x.round.scene.log.length + x.round.rank ≤ x.scene.log.length + x.rank :=
          rank_pollAll h.fit x.scene
        have hgrows : x.scene.log.length ≤ x.round.scene.log.length := by
          rw [hround]
          exact h.length_log_polls _
        refine ih ?_ ?_ (by omega)
        · rw [hround]
          exact h.run _
        · rw [hround]
          exact ticking_run htick _

/-- **WHOEVER SETTLES HAS SETTLED.** -/
theorem Sound.settled_settle {x : Session} (h : x.Sound) (htick : ∀ t ∈ x.tasks, Ticking t) :
    x.settle.Settled :=
  h.settled_settleWithin htick (Nat.lt_succ_of_le x.rank_le_twice)

/-- **AFTER EVERY COMMAND A SESSION HAS SETTLED.** -/
theorem Sound.settled_step {x : Session} (h : x.Sound) (htick : ∀ t ∈ x.tasks, Ticking t)
    (c : Command) : (x.step c).1.Settled := by
  obtain ⟨ms, hms⟩ := reaches_apply c x.quiet
  have hsound : (x.quiet.apply c).1.Sound := hms ▸ h.quiet.run ms
  have hticking : ∀ t ∈ (x.quiet.run ms).tasks, Ticking t :=
    ticking_run (show ∀ t ∈ x.quiet.tasks, Ticking t from htick) ms
  exact hsound.settled_settle (hms ▸ hticking)

/-! ## §3. What commands lead to. -/

/-- **WHAT COMMANDS LEAD TO HAS SETTLED.** -/
theorem Sound.settled_driven {x : Session} (h : x.Sound) (htick : ∀ t ∈ x.tasks, Ticking t)
    (cs : List Command) (c : Command) : (x.driven (cs ++ [c])).Settled := by
  rw [driven_concat]
  obtain ⟨ms, past, hms⟩ := h.exists_run_driven cs
  have hticking : ∀ t ∈ ((x.driven cs).after past).tasks, Ticking t := hms ▸ ticking_run htick ms
  exact (h.driven cs).settled_step hticking c

/-- **WHOEVER IS PARKED AFTER A COMMAND WAITS FOR GOOD REASON**: nothing that may end the wait has
come, in any session over an accepted gate, whatever commands have driven it there. -/
theorem going_after_command (o : Options) (g : Gate) (h : Gate.ofOptions o = .ok g) (policy : Policy)
    (site : Site) (metrics : Option Metrics) (cs : List Command) (c : Command) (k : Nat) (t : Task)
    (call : Call) (guards : List Guard) (context : Option Context) (start : Duration)
    (hw : Wait ((ofGate g policy site metrics).driven (cs ++ [c])) k t call guards context start) :
    Going o ((ofGate g policy site metrics).driven (cs ++ [c])) k call guards context start := by
  have hstart := ofGate_sound h policy site metrics
  have hg := Gate.World.eq_of_ofOptions h
  have hplaces : (ofGate g policy site metrics).scene.gate.places = [] := by
    rw [hg]
    rfl
  have hwait : (ofGate g policy site metrics).scene.gate.wait = o.wait := by
    rw [hg]
    rfl
  have htasks : (ofGate g policy site metrics).tasks = [] := rfl
  generalize ofGate g policy site metrics = x₀ at *
  have hsettled : (x₀.driven (cs ++ [c])).Settled := by
    refine hstart.settled_driven ?_ cs c
    rw [htasks]
    exact fun t ht => absurd ht List.not_mem_nil
  -- the tasks, the gate and the clock are those of a run
  obtain ⟨ms, past, hms⟩ := hstart.exists_run_driven (cs ++ [c])
  have hwait' := (hstart.onward_run ms).wait
  have hequip := equipped_run htasks ms
  have hbegan : start ≤ (x₀.run ms).scene.now :=
    (hstart.beganAt hplaces ms (k, start) (hms ▸ hw.place)).le hstart
  rw [hms] at hwait' hequip hbegan
  exact hw.going (hstart.driven (cs ++ [c])) (hwait'.trans hwait)
    (hequip t (List.mem_of_getElem? hw.task)) hbegan (hsettled k)

end Session

end Admission

/-
  Admission.Proofs.Burst.Law — every burst obeys the burst law.

  A burst comes at the start of the clock, and the clock then moves a millisecond at a time.  After
  each move one round of polls takes every request from its place at `t` to its place at `t + 1`,
  and a second round would change nothing.  Within the round, the requests before `k` are in their
  new places and the others in their old ones: `Midway` says what the gate looks like then.

  Main results:
    * `midway_step` — one poll takes the round from request `k` to the next;
    * `trace_reached` — every instant of every burst is as the timetable says;
    * `burst_law` — **each request ends when the law says, and as it says**.
-/
import Admission.Proofs.Burst.Poll
import Admission.Proofs.Session.Round

namespace Admission.Burst

open Session (Scene Task Event Command)

variable {b : Burst} {name : Nat → String} {policy : Policy} {t k : Nat} {s : Scene}

/-! ## §1. What is seen. -/

/-- What is seen of request `k` at `t` milliseconds. -/
def shown (b : Burst) (name : Nat → String) (policy : Policy) (t k : Nat) : List Event :=
  if (b.ending k).1 = t then [event name policy k (b.ending k).2] else []

theorem shown_of_ending {o : Outcome} (h : b.ending k = (t, o)) :
    b.shown name policy t k = [event name policy k o] := by
  rw [shown, h, if_pos rfl]

theorem shown_of_open (h : b.place t k ≠ .ended) : b.shown name policy t k = [] := by
  rw [ne_eq, place_eq_ended_iff] at h
  rw [shown, if_neg (by omega)]

theorem shown_of_ended (h : b.place t k = .ended) : b.shown name policy (t + 1) k = [] := by
  rw [place_eq_ended_iff] at h
  rw [shown, if_neg (by omega)]

/-- What is seen of all, in the order of their coming. -/
theorem flatMap_shown (b : Burst) (name : Nat → String) (policy : Policy) (t : Nat)
    (ks : List Nat) :
    ks.flatMap (b.shown name policy t)
      = (ks.filter fun k => (b.ending k).1 = t).map fun k =>
          event name policy k (b.ending k).2 := by
  induction ks with
  | nil => rfl
  | cons k ks ih =>
      rw [List.flatMap_cons, ih, shown]
      by_cases h : (b.ending k).1 = t
      · rw [if_pos h, List.filter_cons_of_pos (by simpa using h), List.map_cons]
        rfl
      · rw [if_neg h, List.filter_cons_of_neg (by simpa using h)]
        rfl

/-! ## §2. A round. -/

theorem Standing.congr {a c d e a' c' d' e' : Nat} (h : Standing b policy t a c d e s)
    (ha : a' = a) (hc : c' = c) (hd : d' = d) (he : e' = e) :
    Standing b policy t a' c' d' e' s := by
  subst ha hc hd he
  exact h

theorem Moves.congr {a c d e a' c' d' e' : Nat} {old : Session.Stage} {p : Place}
    {events : List Event} (h : Moves b name policy t k s old p a c d e events)
    (ha : a' = a) (hc : c' = c) (hd : d' = d) (he : e' = e) :
    Moves b name policy t k s old p a' c' d' e' events := by
  subst ha hc hd he
  exact h

/-- **IN THE MIDDLE OF A ROUND** at `t + 1`: the requests before `k` have been polled. -/
def Midway (b : Burst) (policy : Policy) (t k : Nat) (s : Scene) : Prop :=
  Standing b policy (t + 1) (max (b.first t) (min (b.cleared t) k))
    (max (b.next t) (min (b.filled t) k)) (max (b.next t) (min (b.passed t) k)) (b.last t) s

/-- What one poll of a round has to do with request `k`, which is in a place. -/
def Steps (b : Burst) (name : Nat → String) (policy : Policy) (t k : Nat) (s : Scene) (p : Place) :
    Prop :=
  Moves b name policy (t + 1) k s (b.stage k p) (b.place (t + 1) k)
    (max (b.first t) (min (b.cleared t) (k + 1))) (max (b.next t) (min (b.filled t) (k + 1)))
    (max (b.next t) (min (b.passed t) (k + 1))) (b.last t) (b.shown name policy (t + 1) k)

/-- An ended request is outside of both ranges, and no edge is at it. -/
theorem midway_ended (hk : k < b.count) (h : Midway b policy t k s) (hp : b.place t k = .ended) :
    Steps b name policy t k s .ended := by
  obtain ⟨hfc, hcn⟩ := first_le_cleared b t
  have hnf := next_le_filled b t
  obtain ⟨hfp, hpl⟩ := filled_le_passed b t
  have hr := running_iff (b := b) (t := t) hk
  have hq := parked_iff (b := b) (t := t) hk
  rw [hp] at hr hq
  simp only [reduceCtorEq, false_iff] at hr hq
  unfold Midway at h
  unfold Steps
  rw [ended_succ hp, shown_of_ended hp]
  exact (Moves.of_eq h (poll_ended b name k s)).congr (by omega) (by omega) (by omega) rfl

/-- A running request is the oldest that has a ticket, unless all of its batch go on. -/
theorem midway_running (hk : k < b.count) (h : Midway b policy t k s)
    (hp : b.place t k = .running) : Steps b name policy t k s .running := by
  obtain ⟨hge, hlt⟩ := (running_iff hk).mp hp
  have hnf := next_le_filled b t
  obtain ⟨hfp, hpl⟩ := filled_le_passed b t
  unfold Midway at h
  unfold Steps
  by_cases hl : b.isLate (t + 1)
  · -- the deadline has come, and the requests before it in line are gone
    have he := ending_of_isLate (by rw [hp]; exact Place.noConfusion) hl
    have hc : b.cleared t = b.next t := if_pos (.inl hl)
    have h' : Standing b policy (t + 1) k (b.next t) (b.next t) (b.last t) s :=
      h.congr (by omega) (by omega) (by omega) rfl
    rw [ended_of_ending he, shown_of_ending he]
    exact (running_late h' hlt hl).congr (by omega) (by omega) (by omega) rfl
  · rcases running_step hp hl with ⟨ht, hturn, he⟩ | ⟨ht, hturn, hp'⟩
    · -- the batch ends: the requests before `k` have dropped their tickets already
      have hc : b.cleared t = b.next t := if_pos (.inr ht)
      have h' : Standing b policy (t + 1) k (b.next t) (b.next t) (b.last t) s :=
        h.congr (by omega) (by omega) (by omega) rfl
      rw [ended_of_ending he, shown_of_ending he]
      exact (running_served h' hlt hl (Nat.le_of_eq hturn)).congr (by omega) (by omega)
        (by omega) rfl
    · have hc : b.cleared t = b.first t := if_neg fun hc => hc.elim hl ht
      rw [hp', shown_of_open (by rw [hp']; exact Place.noConfusion)]
      exact (Moves.of_eq h (running_idle h hl hturn)).congr (by omega) (by omega) (by omega) rfl

/-- A parked request is the first in line, unless it and all after it wait on. -/
theorem midway_parked (hk : k < b.count) (h : Midway b policy t k s)
    (hp : b.place t k = .parked) : Steps b name policy t k s .parked := by
  obtain ⟨hge, hlt⟩ := (parked_iff hk).mp hp
  obtain ⟨hfc, hcn⟩ := first_le_cleared b t
  have hnf := next_le_filled b t
  obtain ⟨hfp, hpl⟩ := filled_le_passed b t
  unfold Midway at h
  unfold Steps
  by_cases hl : b.isLate (t + 1)
  · -- no ticket is left by now, and whoever is late passes its run permit on to the next in line
    have he := ending_of_isLate (by rw [hp]; exact Place.noConfusion) hl
    have hc : b.cleared t = b.next t := if_pos (.inl hl)
    have hf : b.filled t = b.next t := if_neg fun hc => hc.1 hl
    have hps : b.passed t = b.last t := if_pos (.inl hl)
    have h' : Standing b policy (t + 1) (b.next t) (b.next t) k (b.last t) s :=
      h.congr (by omega) (by omega) (by omega) rfl
    rw [ended_of_ending he, shown_of_ending he]
    exact (parked_late h' hlt hl).congr (by omega) (by omega) (by omega) rfl
  · rcases parked_step hk hp hl with ⟨hin, ht, hturn, hp'⟩ | ⟨hout, hw, he⟩ | ⟨hout, hw, hp'⟩
    · -- the tickets now are those of the new batch, up to the request before `k`
      have hc : b.cleared t = b.next t := if_pos (.inr ht)
      have hf : b.filled t = min (b.next t + b.limit) (b.last t) := if_pos ⟨hl, ht⟩
      have h' : Standing b policy (t + 1) (b.next t) k k (b.last t) s :=
        h.congr (by omega) (by omega) (by omega) rfl
      rw [hp', shown_of_open (by rw [hp']; exact Place.noConfusion)]
      exact (parked_admitted h' hlt (by omega) hge hl hturn).congr (by omega) (by omega)
        (by omega) rfl
    · -- the new batch is full, so no run permit was handed to `k`
      have hfull := filled_eq (by omega) hl
      have hps : b.passed t = b.last t := if_pos (.inr hw)
      have h' : Standing b policy (t + 1) (b.cleared t) (b.filled t) k (b.last t) s :=
        h.congr (by omega) (by omega) (by omega) rfl
      rw [ended_of_ending he, shown_of_ending he]
      exact (parked_expired h' hlt (by omega) hl hw).congr (by omega) (by omega) (by omega) rfl
    · have hfull := filled_eq (by omega) hl
      have hps : b.passed t = b.filled t := if_neg fun hc => hc.elim hl hw
      rw [hp', shown_of_open (by rw [hp']; exact Place.noConfusion)]
      exact (Moves.of_eq h (parked_idle h (by omega) hlt (by omega) hl hw)).congr
        (by omega) (by omega) (by omega) rfl

/-- **ONE POLL OF A ROUND.** -/
theorem midway_step (hk : k < b.count) (h : Midway b policy t k s) :
    ∃ s', (b.task name k (b.place t k)).poll s = (b.task name k (b.place (t + 1) k), s')
      ∧ Midway b policy t (k + 1) s' ∧ s'.log = s.log ++ b.shown name policy (t + 1) k := by
  show Steps b name policy t k s (b.place t k)
  cases hp : b.place t k with
  | ended => exact midway_ended hk h hp
  | running => exact midway_running hk h hp
  | parked => exact midway_parked hk h hp

/-- The tasks of a burst at `t` milliseconds. -/
def tasksAt (b : Burst) (name : Nat → String) (t : Nat) : List Task :=
  (List.range b.count).map fun k => b.task name k (b.place t k)

/-- **A SESSION OF A BURST** at `t` milliseconds, when nothing changes any more. -/
structure Reached (b : Burst) (name : Nat → String) (policy : Policy) (t : Nat) (x : Session) :
    Prop where
  tasks : x.tasks = b.tasksAt name t
  scene : Standing b policy t (b.first t) (b.next t) (b.next t) (b.last t) x.scene

/-- A round that takes all requests to their new places. -/
theorem round_reached {x : Session} (h : Reached b name policy t x)
    (hlog : x.scene.log = []) :
    Reached b name policy (t + 1) (x.tick 1).round
      ∧ (x.tick 1).round.scene.log
        = (List.range b.count).flatMap (b.shown name policy (t + 1)) := by
  obtain ⟨hfc, hcn⟩ := first_le_cleared b t
  have hnf := next_le_filled b t
  obtain ⟨hfp, hpl⟩ := filled_le_passed b t
  have hfn := first_le_next b t
  have hlast := last_le b t
  have hnow : (x.tick 1).scene.now = .ofMillis (t + 1) := by
    show x.scene.now + .ofMillis 1 = _
    rw [h.scene.now, Duration.ofMillis_add]
  have hstart : Standing b policy (t + 1) (b.first t) (b.next t) (b.next t) (b.last t)
      (x.tick 1).scene :=
    ⟨hnow, h.scene.policy,
      fun hl => h.scene.uncancelled fun hl' => hl (isLate_mono hl' (Nat.le_succ t)), h.scene.gate⟩
  have hmid : Midway b policy t 0 (x.tick 1).scene :=
    hstart.congr (by omega) (by omega) (by omega) rfl
  -- one poll after the other keeps the timetable, from the first request to the last
  obtain ⟨s', hpoll, hend, hs'⟩ := Session.pollAll_range (Midway b policy t)
    (fun k => b.task name k (b.place t k)) (fun k => b.task name k (b.place (t + 1) k))
    (b.shown name policy (t + 1)) b.count 0 _
    (fun k s _ hk h => midway_step (by omega) h) hmid
  rw [← List.range_eq_range'] at hpoll hs'
  have hround : (x.tick 1).round
      = { x with tasks := b.tasksAt name (t + 1), scene := s' } := by
    have htasks : (x.tick 1).tasks = b.tasksAt name t := h.tasks
    unfold Session.round
    rw [htasks, tasksAt, hpoll]
    rfl
  rw [hround]
  refine ⟨⟨rfl, hend.now, hend.policy, hend.uncancelled, ?_⟩, ?_⟩
  · -- the edges at the end of the round are those of the timetable, or bound empty ranges
    have hgate := hend.gate
    have htickets := running_succ_range b t
    have hwaiters := parked_succ_range b t
    exact hgate.shift (by omega) (by omega)
  · show s'.log = _
    rw [hs']
    show x.scene.log ++ _ = _
    rw [hlog, List.nil_append]

/-- **A ROUND MORE CHANGES NOTHING.** -/
theorem Reached.round_eq {x : Session} (h : Reached b name policy t x) : x.round = x := by
  have hself : Session.pollAll x.tasks x.scene = (x.tasks, x.scene) := by
    refine Session.pollAll_eq_self fun u hu => ?_
    rw [h.tasks, tasksAt] at hu
    obtain ⟨k, hk, rfl⟩ := List.mem_map.mp hu
    have hk : k < b.count := List.mem_range.mp hk
    cases hp : b.place t k with
    | ended => exact poll_ended b name k x.scene
    | running =>
        obtain ⟨-, hl, -, hlt, -⟩ := place_eq_running_iff.mp hp
        exact running_idle h.scene hl hlt
    | parked =>
        obtain ⟨-, hl, -, hw⟩ := place_eq_parked_iff.mp hp
        obtain ⟨hge, hlt⟩ := (parked_iff hk).mp hp
        have hfull := next_eq_of_waiting (b := b) (t := t) (by omega)
        exact parked_idle h.scene hge hlt (by omega) hl hw
  unfold Session.round
  rw [hself]

/-- **ONE MORE MILLISECOND.** -/
theorem step_reached {x : Session} (h : Reached b name policy t x) :
    Reached b name policy (t + 1) (x.step (.advance (.ofMillis 1) 1)).1
      ∧ (x.step (.advance (.ofMillis 1) 1)).2.2
        = (List.range b.count).flatMap (b.shown name policy (t + 1)) := by
  have hquiet : Reached b name policy t { x with scene := { x.scene with log := [] } } :=
    ⟨h.tasks, h.scene.now, h.scene.policy, h.scene.uncancelled, h.scene.gate⟩
  obtain ⟨hround, hlog⟩ := round_reached hquiet rfl
  rw [Session.step_advance, show (Duration.ofMillis 1).wholeMillis = 1 from rfl]
  show Reached b name policy (t + 1) (Session.settle _)
    ∧ (Session.settle _).scene.log = _
  rw [Session.settle_eq_round hround.round_eq]
  exact ⟨hround, hlog⟩

/-! ## §3. The arrival. -/

/-- All requests come at once. -/
def arrival (b : Burst) (name : Nat → String) : Command :=
  .batch ((List.range b.count).map fun k => .http (name k) none get)

/-- The requests become tasks, in the order of their coming. -/
theorem applyAll_requests (b : Burst) (name : Nat → String) (n : Nat) :
    ∀ (lo : Nat) (x : Session), x.site = b.site → x.tasks.length = lo →
      (x.applyAll ((List.range' lo n).map fun k => .http (name k) none get)).1
        = { x with tasks := x.tasks ++ (List.range' lo n).map (b.newcomer name) } := by
  induction n with
  | zero =>
      intro lo x _ _
      simp [Session.applyAll]
  | succ n ih =>
      -- each request is put behind those that came before it
      intro lo x hsite hlen
      have hadd : (x.apply (.http (name lo) none get)).1
          = { x with tasks := x.tasks ++ [b.newcomer name lo] } := by
        show x.addTask (name lo) (Session.siteJob x.site none get) = _
        have hjob : Session.siteJob x.site none get = .call b.call := by
          rw [hsite]
          exact siteJob_get b
        rw [hjob, Session.addTask, hlen]
        rfl
      have hlen' : (x.tasks ++ [b.newcomer name lo]).length = lo + 1 := by
        rw [List.length_append, hlen]
        rfl
      rw [List.range'_succ, List.map_cons, List.map_cons]
      simp only [Session.applyAll]
      rw [hadd, ih (lo + 1) { x with tasks := x.tasks ++ [b.newcomer name lo] } hsite hlen',
        List.append_assoc]
      rfl

/-- **IN THE MIDDLE OF THE ARRIVAL**: the requests before `k` have been polled. -/
structure Arriving (b : Burst) (policy : Policy) (k : Nat) (s : Scene) : Prop where
  scene : Standing b policy 0 0 (min k b.limit) (min k b.limit) (min k b.capacity) s
  fresh : b.deadline.isSome → s.tokens.fresh = k

theorem arriving_step (hk : k < b.count) (h : Arriving b policy k s) :
    ∃ s', (b.newcomer name k).poll s = (b.task name k (b.place 0 k), s')
      ∧ Arriving b policy (k + 1) s' ∧ s'.log = s.log ++ b.shown name policy 0 k := by
  have hcap : b.limit ≤ b.capacity := Nat.le_add_right _ _
  obtain ⟨hf, hn, hl⟩ := bounds_zero b
  have hr := running_iff (b := b) (t := 0) hk
  have hq := parked_iff (b := b) (t := 0) hk
  rw [hf, hn] at hr
  rw [hn, hl] at hq
  unfold accepted at hr hq
  -- the newcomer finds a run permit, a place in the queue, or neither
  by_cases hlt : k < b.limit
  · have hp : b.place 0 k = .running := hr.mpr (by omega)
    have hnow : Standing b policy 0 0 k k k s :=
      h.scene.congr rfl (by omega) (by omega) (by omega)
    obtain ⟨s', hpoll, hs', hfresh, hlog⟩ := newcomer_admitted name hnow h.fresh hlt
    refine ⟨s', ?_, ⟨hs'.congr rfl (by omega) (by omega) (by omega), hfresh⟩, ?_⟩
    · rw [hp, hpoll]
    · rw [shown_of_open (by rw [hp]; exact Place.noConfusion), hlog, List.append_nil]
  · by_cases hlt' : k < b.capacity
    · have hp : b.place 0 k = .parked := hq.mpr (by omega)
      have hnow : Standing b policy 0 0 b.limit b.limit k s :=
        h.scene.congr rfl (by omega) (by omega) (by omega)
      obtain ⟨s', hpoll, hs', hfresh, hlog⟩ :=
        newcomer_parked name hnow h.fresh (by omega) hlt'
      refine ⟨s', ?_, ⟨hs'.congr rfl (by omega) (by omega) (by omega), hfresh⟩, ?_⟩
      · rw [hp, hpoll]
      · rw [shown_of_open (by rw [hp]; exact Place.noConfusion), hlog, List.append_nil]
    · have he := ending_of_full (b := b) (k := k) (by omega)
      have hnow : Standing b policy 0 0 b.limit b.limit b.capacity s :=
        h.scene.congr rfl (by omega) (by omega) (by omega)
      obtain ⟨s', hpoll, hs', hfresh, hlog⟩ := newcomer_full name hnow h.fresh
      refine ⟨s', ?_, ⟨hs'.congr rfl (by omega) (by omega) (by omega), hfresh⟩, ?_⟩
      · rw [ended_of_ending he, hpoll]
      · rw [shown_of_ending he, hlog]

/-- **THE ARRIVAL** at an idle server. -/
theorem arrival_reached (b : Burst) (name : Nat → String) (policy : Policy)
    (metrics : Option Metrics) :
    let x := Session.ofGate (.ofLimits b.limit b.capacity b.backlogWait) policy b.site metrics
    Reached b name policy 0 (x.step (b.arrival name)).1
      ∧ (x.step (b.arrival name)).2.2 = (List.range b.count).flatMap (b.shown name policy 0) := by
  intro x
  have hx : (x.apply (b.arrival name)).1
      = { x with tasks := (List.range' 0 b.count).map (b.newcomer name) } := by
    rw [arrival, List.range_eq_range']
    exact applyAll_requests b name b.count 0 x rfl rfl
  have hstart : Arriving b policy 0 x.scene := by
    refine ⟨⟨rfl, rfl, fun _ => rfl, ?_⟩, fun _ => rfl⟩
    simp only [Nat.zero_min]
    exact .ofLimits _ _ _
  obtain ⟨s', hpoll, hend, hlog⟩ := Session.pollAll_range (Arriving b policy)
    (b.newcomer name) (fun k => b.task name k (b.place 0 k)) (b.shown name policy 0) b.count 0 _
    (fun k s _ hk h => arriving_step (by omega) h) hstart
  rw [Nat.zero_add] at hend
  have hround : Session.round { x with tasks := (List.range' 0 b.count).map (b.newcomer name) }
      = { x with tasks := b.tasksAt name 0, scene := s' } := by
    unfold Session.round
    rw [hpoll, tasksAt, List.range_eq_range']
  have hreached : Reached b name policy 0 { x with tasks := b.tasksAt name 0, scene := s' } := by
    obtain ⟨hf, hn, hl⟩ := bounds_zero b
    have hcap : b.limit ≤ b.capacity := Nat.le_add_right _ _
    refine ⟨rfl, hend.scene.congr hf ?_ ?_ ?_⟩ <;> simp only [hn, hl, accepted] <;> omega
  -- the first round has polled all, and a second one changes nothing
  have hstep : x.step (b.arrival name)
      = ({ x with tasks := b.tasksAt name 0, scene := s' }, (x.apply (b.arrival name)).2,
          s'.log) := by
    have hquiet : ({ x with scene := { x.scene with log := [] } } : Session) = x := rfl
    have hsettle : (x.apply (b.arrival name)).1.settle
        = { x with tasks := b.tasksAt name 0, scene := s' } := by
      rw [hx, Session.settle_eq_round, hround]
      rw [hround]
      exact hreached.round_eq
    simp only [Session.step, hquiet, hsettle]
  rw [hstep, List.range_eq_range']
  exact ⟨hreached, hlog⟩

/-! ## §4. The law. -/

/-- The session of a burst `t` milliseconds after its arrival, and what was seen of it then. -/
def trace (b : Burst) (name : Nat → String) (x : Session) : Nat → Session × List Event
  | 0 =>
      let y := x.step (b.arrival name)
      (y.1, y.2.2)
  | t + 1 =>
      let y := (b.trace name x t).1.step (.advance (.ofMillis 1) 1)
      (y.1, y.2.2)

/-- **EVERY INSTANT OF A BURST** is as the timetable says. -/
theorem trace_reached (b : Burst) (name : Nat → String) (policy : Policy)
    (metrics : Option Metrics) (t : Nat) :
    let x := Session.ofGate (.ofLimits b.limit b.capacity b.backlogWait) policy b.site metrics
    Reached b name policy t (b.trace name x t).1
      ∧ (b.trace name x t).2 = (List.range b.count).flatMap (b.shown name policy t) := by
  induction t with
  | zero => exact arrival_reached b name policy metrics
  | succ t ih => exact step_reached ih.1

/-- The gate of a burst is one that its options allow. -/
theorem ofOptions_options (b : Burst) :
    Gate.ofOptions b.options = .ok (.ofLimits b.limit b.capacity b.backlogWait) := by
  have hle := b.permits_le
  have hpos := b.limit_pos
  unfold Options.maxPermits at hle
  -- the limits of a burst fit into words
  have hlimit : (UInt64.ofNat b.limit).toNat = b.limit := by
    rw [UInt64.toNat_ofNat']
    omega
  have hbacklog : (UInt64.ofNat b.backlog).toNat = b.backlog := by
    rw [UInt64.toNat_ofNat']
    omega
  have hzero : ¬ UInt64.ofNat b.limit = 0 := by
    intro h
    rw [h] at hlimit
    simp at hlimit
    omega
  have hcap : b.options.capacity? = some b.capacity := by
    show (if (UInt64.ofNat b.limit).toNat + (UInt64.ofNat b.backlog).toNat ≤ Options.maxWord then
      some ((UInt64.ofNat b.limit).toNat + (UInt64.ofNat b.backlog).toNat) else none) = _
    rw [hlimit, hbacklog, if_pos (by unfold Options.maxWord; omega)]
    rfl
  have hvalid : b.options.validate = .ok () := by
    unfold Options.validate
    rw [if_neg (show ¬ b.options.limit = 0 from hzero)]
    simp only [hcap]
    exact if_pos b.permits_le
  simp only [Gate.ofOptions, hvalid, hcap]
  show Except.ok (Gate.ofLimits (UInt64.ofNat b.limit).toNat b.capacity b.backlogWait) = _
  rw [hlimit]

/-- **HOW A BURST OBEYS THE LAW** `t` milliseconds after its arrival. -/
structure Obeyed (b : Burst) (name : Nat → String) (policy : Policy) (t : Nat)
    (r : Session × List Event) : Prop where
  /-- Those who end now are seen to end, in the order of their coming; nothing else is seen. -/
  events : r.2 = ((List.range b.count).filter fun k => (b.ending k).1 = t).map fun k =>
    event name policy k (b.ending k).2
  /-- Those whose end has come have ended, and nobody else. -/
  finished : r.1.tasks.map Task.isFinished
    = (List.range b.count).map fun k => decide ((b.ending k).1 ≤ t)
  /-- When all have ended, nothing is in flight and nothing waits. -/
  idle : (∀ u ∈ r.1.tasks, u.isFinished = true) →
    r.1.scene.gate.snapshot.inFlight = 0 ∧ r.1.scene.gate.snapshot.waiting = 0

theorem isFinished_task (b : Burst) (name : Nat → String) (k : Nat) (p : Place) :
    (b.task name k p).isFinished = decide (p = .ended) := by
  cases p <;> rfl

theorem Reached.obeyed {x : Session} (h : Reached b name policy t x) {events : List Event}
    (he : events = (List.range b.count).flatMap (b.shown name policy t)) :
    Obeyed b name policy t (x, events) := by
  refine ⟨he.trans (flatMap_shown b name policy t _), ?_, fun hall => ?_⟩
  · show x.tasks.map Task.isFinished = _
    rw [h.tasks, tasksAt, List.map_map]
    refine List.map_congr_left fun k _ => ?_
    show (b.task name k (b.place t k)).isFinished = _
    rw [isFinished_task, decide_eq_decide, place_eq_ended_iff]
  · -- whoever is in one of the two ranges has not ended
    have hended : ∀ k < b.count, b.place t k = .ended := by
      intro k hk
      have := hall (b.task name k (b.place t k)) (by
        show _ ∈ x.tasks
        rw [h.tasks]
        exact List.mem_map_of_mem (List.mem_range.mpr hk))
      rw [isFinished_task] at this
      exact of_decide_eq_true this
    have hlast := last_le b t
    have hnl := next_le_last b t
    have hrun : b.next t ≤ b.first t := by
      refine Nat.le_of_not_lt fun hlt => ?_
      have hk : b.first t < b.count := by omega
      have := (running_iff hk).mpr ⟨Nat.le_refl _, hlt⟩
      rw [hended _ hk] at this
      exact Place.noConfusion this
    have hwait : b.last t ≤ b.next t := by
      refine Nat.le_of_not_lt fun hlt => ?_
      have hk : b.next t < b.count := by omega
      have := (parked_iff hk).mpr ⟨Nat.le_refl _, hlt⟩
      rw [hended _ hk] at this
      exact Place.noConfusion this
    exact h.scene.gate.snapshot_of_empty hrun hwait

/-- **THE BURST LAW HOLDS**: of every burst at an idle server, under every policy of refusals, with
or without a recorder, and at every instant. -/
theorem burst_law (b : Burst) (name : Nat → String) (policy : Policy) (metrics : Option Metrics) :
    ∃ gate, Gate.ofOptions b.options = .ok gate
      ∧ ∀ t, Obeyed b name policy t
          (b.trace name (Session.ofGate gate policy b.site metrics) t) := by
  refine ⟨_, ofOptions_options b, fun t => ?_⟩
  obtain ⟨hreached, hevents⟩ := trace_reached b name policy metrics t
  exact hreached.obeyed hevents

/-- Eight requests come to two slots and a backlog of three. -/
def eight : Burst where
  limit := 2
  backlog := 3
  wait := some 10
  work := 10
  deadline := some 20
  count := 8
  limit_pos := by decide
  work_pos := by decide
  wait_pos := by decide
  deadline_pos := by decide
  permits_le := by decide

/-- All four outcomes, with two ties: the second batch has its turn when patience is over, and its
deadline comes when its page would be done. -/
theorem burst_law_eight :
    (List.range 8).map eight.ending
        = [(10, .served), (10, .served), (20, .late), (20, .late),
          (10, .refused (.timeout false)), (0, .refused .capacity), (0, .refused .capacity),
          (0, .refused .capacity)]
      ∧ ∃ gate, Gate.ofOptions eight.options = .ok gate
        ∧ ∀ t, Obeyed eight toString .standard t
            (eight.trace toString (Session.ofGate gate .standard eight.site none) t) :=
  ⟨by decide, burst_law eight toString .standard none⟩

/-- The longest span that a word counts in whole seconds, asked for as the time that a request may
wait, where the page takes twenty years. -/
def patient : Burst where
  limit := 1
  backlog := 2
  wait := some 18446744073709551615000
  work := 630720000000
  deadline := none
  count := 3
  limit_pos := by decide
  work_pos := by decide
  wait_pos := by decide
  deadline_pos := by decide
  permits_le := by decide

/-- **NO SPAN IS LONGER THAN THIRTY YEARS**: by the spans that were asked for the third request would
be served after the other two, but the gate's timer ends its wait. -/
theorem refused_after_thirty_years :
    patient.endingWithin patient.wait patient.work 2 = (1892160000000, .served)
      ∧ ∃ gate, Gate.ofOptions patient.options = .ok gate
        ∧ (patient.trace toString (Session.ofGate gate .standard patient.site none)
            946080000000).2
          = [event toString .standard 2 (.refused (.timeout false))] := by
  refine ⟨by decide, _, ofOptions_options patient, ?_⟩
  rw [(trace_reached patient toString .standard none 946080000000).2]
  have h0 : patient.ending 0 = (630720000000, .served) := by decide
  have h1 : patient.ending 1 = (1261440000000, .served) := by decide
  have h2 : patient.ending 2 = (946080000000, .refused (.timeout false)) := by decide
  show [0, 1, 2].flatMap _ = _
  simp [shown, h0, h1, h2]

end Admission.Burst

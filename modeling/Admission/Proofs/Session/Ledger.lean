/-
  Admission.Proofs.Session.Ledger — every request to a router is accounted for.

  One move adds an entry to one account, and the counters of the gate move by that entry and by
  nothing else.  So the totals of the gate are those of all accounts: whom it has admitted, whom it
  has refused and for which reason, and whom it counts as cancelled because they were cut off where
  they waited.

  Main results:
    * `Sound.tallied_move`, `Sound.tallied_run` — the counters are those of the calls and closings;
    * `requests_accounted` — **every request is closed once at most, and the four totals say how**.
-/
import Admission.Proofs.Session.Account
import Admission.Proofs.Session.Answers

namespace Admission.Session

/-! ## §1. Counters. -/

/-- The counters go from `n` to `n'` by this many calls of inner services, and by these closings. -/
structure Tallies (n n' : Counters) (calls : Nat) (cs : List Closing) : Prop where
  admitted : n'.admitted = n.admitted + calls
  rejected : ∀ reason, n'.rejected reason
    = n.rejected reason + cs.countP fun e => e.reason? = some reason

theorem Tallies.refl (n : Counters) : Tallies n n 0 [] := ⟨rfl, fun _ => rfl⟩

theorem Tallies.trans {n n' n'' : Counters} {calls calls' : Nat} {cs cs' : List Closing}
    (h : Tallies n n' calls cs) (h' : Tallies n' n'' calls' cs') :
    Tallies n n'' (calls + calls') (cs ++ cs') := by
  constructor
  · rw [h'.admitted, h.admitted, Nat.add_assoc]
  · intro reason
    rw [h'.rejected, h.rejected, List.countP_append, Nat.add_assoc]

theorem Entry.tallies {policy : Policy} {t u : Task} {c : Call} {n n' : Counters}
    {es : List Event} {b : Bool} {e? : Option Closing} (h : Entry policy t c n u n' es b e?) :
    Tallies n n' b.toNat e?.toList :=
  ⟨h.admitted, h.rejected⟩

/-- The drop of any other task does nothing at the gate. -/
theorem gate_abort_of_aside {t : Task} (hf : Fit t) (hj : ∀ c, t.job ≠ .call c) (s : Scene) :
    (t.abort s).2.gate = s.gate := by
  unfold Task.abort
  cases hst : t.stage with
  | parked guards context =>
      obtain ⟨c, hc⟩ := hf.parked guards context hst
      exact absurd hc (hj c)
  | running guards todo =>
      obtain ⟨-, c, hc, -⟩ := hf.running guards todo hst
      exact absurd hc (hj c)
  | fresh | reporting | finished => rfl

namespace Sound

variable {x : Session} {m : Move} {k : Nat} {t : Task}

theorem tallied_poll (h : x.Sound) (hr : x.Routed) (hk : x.tasks[k]? = some t) :
    Tallies x.scene.gate.counters (x.move (.poll k)).scene.gate.counters
      (x.called (.poll k)).length (x.closed (.poll k)) := by
  have hsame : ∀ j, j ≠ k → (x.move (.poll k)).tasks[j]? = x.tasks[j]? :=
    fun j hj => getElem?_onTask_of_ne (Ne.symm hj) Task.poll
  rw [closed_of_one hk hsame, (count_called_poll hk).2]
  rcases call_or_not t with ⟨c, hc⟩ | hj
  · exact (h.entry_of_poll hr hk hc).tallies
  · rw [scene_move_poll hk, (aside_poll hj x.scene).gate_eq, closing?_of_aside hk hj,
      isCalled_of_aside hj]
    exact .refl _

/-- A move that is no poll. -/
theorem tallied_order (h : x.Sound) (hm : ∀ k, m.polls k = false) {y : Session}
    (hy : x.move m = y) (ho : Order x y) :
    Tallies x.scene.gate.counters y.scene.gate.counters 0 (x.closed m) := by
  have hnone : (∀ (j : Nat) t, x.tasks[j]? = some t → y.tasks[j]? = some t) →
      y.scene.gate.counters = x.scene.gate.counters →
      Tallies x.scene.gate.counters y.scene.gate.counters 0 (x.closed m) := by
    intro hsame hcount
    rw [closed_of_same (hy ▸ hsame), hcount]
    exact .refl _
  -- only a dropped call counts and closes; all other orders leave the calls as they are
  cases ho with
  | @dropped k t hk =>
      have hsame : ∀ j, j ≠ k → (x.move m).tasks[j]? = x.tasks[j]? := by
        intro j hj
        rw [hy]
        exact getElem?_onTask_of_ne (Ne.symm hj) Task.abort
      rw [closed_of_one hk hsame]
      rcases call_or_not t with ⟨c, hc⟩ | hj
      · rw [← hy]
        exact (h.entry_of_drop hk hc (hm k) hy).tallies
      · rw [closing?_of_aside hk hj, onTask_of_some hk]
        show Tallies _ (t.abort x.scene).2.gate.counters 0 []
        rw [gate_abort_of_aside (h.fit t (List.mem_of_getElem? hk)) hj]
        exact .refl _
  | came name hj => exact hnone (fun j t ht => getElem?_addTask ht name _) rfl
  | @released name key _ | @discarded name key _ =>
      exact hnone (fun _ _ ht => ht) (h.balanced.counters_discard key)
  | idle | contextMade | cancelled | permitted => exact hnone (fun _ _ ht => ht) rfl

/-- **ONE MOVE COUNTS** whom it calls and what it closes. -/
theorem tallied_move (h : x.Sound) (hr : x.Routed) (m : Move) :
    Tallies x.scene.gate.counters (x.move m).scene.gate.counters (x.called m).length
      (x.closed m) := by
  rcases poll_or_not m with ⟨k, rfl⟩ | hm
  · cases hk : x.tasks[k]? with
    | some t => exact h.tallied_poll hr hk
    | none =>
        have hx : x.move (.poll k) = x := onTask_of_none hk Task.poll
        rw [closed_of_same (by rw [hx]; exact fun _ _ ht => ht), called_poll_of_none hk, hx]
        exact .refl _
  · rw [called_of_not_polls hm]
    rcases order_or_tick x hm with ho | ⟨ms, hx⟩
    · exact h.tallied_order hm rfl ho
    · rw [closed_of_same (by rw [hx]; exact fun _ _ ht => ht), hx]
      exact .refl _

/-- **A WHOLE RUN COUNTS** whom it calls and what it closes. -/
theorem tallied_run (h : x.Sound) (hr : x.Routed) {ms : List Move}
    (hms : ∀ m ∈ ms, m.isRouted = true) :
    Tallies x.scene.gate.counters (x.run ms).scene.gate.counters (callings x ms).length
      (closings x ms) := by
  induction ms using List.reverseRecOn with
  | nil => exact .refl _
  | append_singleton ms m ih =>
      have hinit : ∀ m' ∈ ms, m'.isRouted = true :=
        fun m' hm' => hms m' (List.mem_append_left _ hm')
      have hstep := (h.run ms).tallied_move (hr.run h hinit) m
      rw [run_concat]
      unfold callings closings at ih ⊢
      rw [trail_concat, trail_concat, List.length_append]
      exact (ih hinit).trans hstep

end Sound

/-! ## §2. Totals. -/

theorem countP_cons_toNat {α : Type} (p : α → Bool) (a : α) (l : List α) :
    (a :: l).countP p = l.countP p + (p a).toNat := by
  rw [List.countP_cons]
  cases p a <;> rfl

/-- What holds of either kind and never of both is counted by kinds. -/
theorem countP_of_either {α : Type} {p q r : α → Bool} {l : List α}
    (h : ∀ a ∈ l, (r a).toNat = (p a).toNat + (q a).toNat) :
    l.countP r = l.countP p + l.countP q := by
  induction l with
  | nil => rfl
  | cons a l ih =>
      have hhead := h a List.mem_cons_self
      have hrest := ih fun b hb => h b (List.mem_cons_of_mem _ hb)
      rw [countP_cons_toNat, countP_cons_toNat, countP_cons_toNat, hhead, hrest]
      omega

/-- How often a request is among those of certain closings. -/
theorem count_requests (cs : List Closing) (p : Closing → Bool) (k : Nat) :
    ((cs.filter p).map (·.request)).count k = (cs.filter (·.request == k)).countP p := by
  rw [List.count, List.countP_map, List.countP_filter, List.countP_filter]
  exact List.countP_congr fun e _ => by simp [Bool.and_comm]

section Totals

variable {policy : Policy} {x : Session} {calls : List Nat} {cs : List Closing}
  {tale : Nat → List Event}

/-- How often a running request is among those that run. -/
theorem Sound.count_running (h : x.Sound) {k : Nat} {t : Task} (hk : x.tasks[k]? = some t) :
    (x.running.map (·.key)).count k = t.isRunning.toNat := by
  have hnodup := h.running_keys_nodup fun _ => true
  rw [List.filter_true] at hnodup
  have hmem : k ∈ x.running.map (·.key) ↔ t.isRunning = true := by
    constructor
    · intro hm
      obtain ⟨u, hu, hkey⟩ := List.mem_map.mp hm
      obtain ⟨hmem, hrun⟩ := List.mem_filter.mp hu
      obtain ⟨j, hj⟩ := List.mem_iff_getElem?.mp hmem
      have hjk : j = k := (h.keyed j u hj).symm.trans hkey
      rw [hjk, hk] at hj
      cases hj
      exact hrun
    · intro hrun
      exact List.mem_map.mpr ⟨t, List.mem_filter.mpr ⟨List.mem_of_getElem? hk, hrun⟩, h.keyed k t hk⟩
  rw [hnodup.count]
  cases hrun : t.isRunning with
  | false => exact if_neg fun hm => Bool.false_ne_true (hrun ▸ hmem.mp hm)
  | true => exact if_pos (hmem.mpr hrun)

namespace Ledgered

/-- A number is that of a request with an account, or nothing is known of it. -/
theorem account_or_none (h : Ledgered policy x calls cs tale) (k : Nat) :
    (∃ t c, x.tasks[k]? = some t ∧ t.job = .call c
        ∧ Account policy t c (calls.count k) (cs.filter (·.request == k)) (tale k))
      ∨ ((∀ t, x.tasks[k]? = some t → ∀ c, t.job ≠ .call c)
        ∧ calls.count k = 0 ∧ cs.filter (·.request == k) = []) := by
  by_cases hk : ∃ t c, x.tasks[k]? = some t ∧ t.job = .call c
  · obtain ⟨t, c, ht, hc⟩ := hk
    exact .inl ⟨t, c, ht, hc, h.account k t c ht hc⟩
  · have hno : ∀ t, x.tasks[k]? = some t → ∀ c, t.job ≠ .call c :=
      fun t ht c hc => hk ⟨t, c, ht, hc⟩
    obtain ⟨hcalls, hcs⟩ := h.elsewhere k hno
    exact .inr ⟨hno, List.count_eq_zero_of_not_mem hcalls, hcs⟩

/-- **NOBODY IS CLOSED TWICE.** -/
theorem nodup (h : Ledgered policy x calls cs tale) : (cs.map (·.request)).Nodup := by
  refine List.nodup_iff_count_le_one.mpr fun k => ?_
  have hcount := count_requests cs (fun _ => true) k
  rw [List.filter_true, List.countP_true] at hcount
  rw [hcount]
  rcases h.account_or_none k with ⟨t, c, -, -, haccount⟩ | ⟨-, -, hnone⟩
  · rw [haccount.length_eq]
    exact Bool.toNat_le _
  · rw [hnone]
    exact Nat.zero_le 1

/-- **WHOEVER HAS ENDED WAS CLOSED**, and nobody else. -/
theorem mem_closed_iff (h : Ledgered policy x calls cs tale) (k : Nat) :
    k ∈ cs.map (·.request)
      ↔ ∃ t c, x.tasks[k]? = some t ∧ t.job = .call c ∧ t.stage = .finished := by
  have hcount := count_requests cs (fun _ => true) k
  rw [List.filter_true, List.countP_true] at hcount
  rw [← List.count_pos_iff, hcount]
  rcases h.account_or_none k with ⟨t, c, ht, hc, haccount⟩ | ⟨hno, -, hnone⟩
  · rw [haccount.length_eq]
    constructor
    · intro hpos
      refine ⟨t, c, ht, hc, isFinished_iff.mp ?_⟩
      cases hf : t.isFinished with
      | false =>
          rw [hf] at hpos
          cases hpos
      | true => rfl
    · rintro ⟨u, -, hu, -, hst⟩
      cases ht.symm.trans hu
      rw [isFinished_iff.mpr hst]
      decide
  · rw [hnone]
    exact ⟨nofun, fun ⟨t, c, ht, hc, _⟩ => absurd hc (hno t ht c)⟩

/-- **NO REQUEST COUNTS TWICE**: neither is it admitted twice, nor refused twice, nor both. -/
theorem apart (h : Ledgered policy x calls cs tale) :
    (calls ++ (cs.filter (·.reason?.isSome)).map (·.request)).Nodup := by
  refine List.nodup_iff_count_le_one.mpr fun k => ?_
  rw [List.count_append, count_requests]
  rcases h.account_or_none k with ⟨t, c, -, -, haccount⟩ | ⟨-, hcalls, hnone⟩
  · exact haccount.apart
  · rw [hcalls, hnone]
    exact Nat.zero_le 1

/-- **WHOSE INNER SERVICE WAS CALLED** runs, or was closed after the call. -/
theorem perm_calls (h : Ledgered policy x calls cs tale) (hs : x.Sound) :
    calls.Perm (x.running.map (·.key) ++ (cs.filter (·.isCalled)).map (·.request)) := by
  refine List.perm_iff_count.mpr fun k => ?_
  rw [List.count_append, count_requests]
  rcases h.account_or_none k with ⟨t, c, ht, -, haccount⟩ | ⟨hno, hcalls, hnone⟩
  · rw [hs.count_running ht]
    exact haccount.calls_eq
  · have hrunning : k ∉ x.running.map (·.key) := by
      intro hm
      obtain ⟨t, ht, rfl⟩ := List.mem_map.mp hm
      obtain ⟨hmem, hrun⟩ := List.mem_filter.mp ht
      obtain ⟨guards, todo, hst⟩ := Task.isRunning_iff.mp hrun
      obtain ⟨-, c, hc, -⟩ := (hs.fit t hmem).running guards todo hst
      obtain ⟨j, hj⟩ := List.mem_iff_getElem?.mp hmem
      exact hno t (hs.keyed j t hj ▸ hj) c hc
    rw [hcalls, hnone, List.count_eq_zero_of_not_mem hrunning]
    rfl

/-- So there are as many calls as answers, running services and services that were cut off or
panicked. -/
theorem length_calls (h : Ledgered policy x calls cs tale) (hs : x.Sound) :
    calls.length
      = cs.countP (·.isAnswer) + x.running.length + cs.countP (·.isBroken) := by
  have hsplit : cs.countP (·.isCalled) = cs.countP (·.isAnswer) + cs.countP (·.isBroken) := by
    refine countP_of_either fun e he => ?_
    have hself : e ∈ cs.filter (·.request == e.request) := List.mem_filter.mpr ⟨he, beq_self_eq_true _⟩
    rcases h.account_or_none e.request with ⟨t, c, -, -, haccount⟩ | ⟨-, -, hnone⟩
    · exact haccount.called_split e hself
    · rw [hnone] at hself
      cases hself
  have hlength := (h.perm_calls hs).length_eq
  rw [List.length_append, List.length_map, List.length_map, ← List.countP_eq_length_filter,
    hsplit] at hlength
  omega

end Ledgered

/-- A closing that counts as cancelled is a refusal, or the request was forsaken. -/
theorem cancelled_split (e : Closing) :
    (decide (e.reason? = some (.timeout true))).toNat
      = (e.isRefusal (.timeout true)).toNat + e.isForsaken.toNat := by
  obtain ⟨k, whence, exit⟩ := e
  cases exit with
  | refused reason =>
      have hno : (Closing.isForsaken ⟨k, whence, .refused reason⟩) = false := Bool.and_false _
      rw [hno]
      cases reason with
      | capacity => rfl
      | timeout ambient => cases ambient <;> rfl
  | answered | panicked | late | dropped => cases whence <;> rfl

/-- A closing that counts as any other refusal is one. -/
theorem refused_iff (e : Closing) {reason : Reason} (hr : reason ≠ .timeout true) :
    decide (e.reason? = some reason) = true ↔ e.isRefusal reason = true := by
  obtain ⟨k, whence, exit⟩ := e
  cases exit with
  | refused r => simp [Closing.reason?, Closing.isRefusal]
  | answered | panicked => simp [Closing.reason?, Closing.isRefusal]
  | late | dropped =>
      cases whence <;> simp [Closing.reason?, Closing.isRefusal, hr.symm]

end Totals

/-! ## §3. The ledger. -/

/-- **THE LEDGER** of a run from `x₀`. -/
structure Ledger (x₀ : Session) (ms : List Move) : Prop where
  /-- Whoever asks at the gate wants an HTTP answer; how often its inner service was called, how it
  was closed, and what its polls have shown, is one of nine accounts. -/
  account : ∀ (k : Nat) (t : Task) (c : Call), (x₀.run ms).tasks[k]? = some t → t.job = .call c →
    (∃ frame, c.reply = .http frame)
      ∧ Account x₀.scene.policy t c ((callings x₀ ms).count k)
          ((closings x₀ ms).filter (·.request == k)) (story k x₀ ms)
  /-- The events of an account say why the request has ended. -/
  worded : ∀ (k : Nat) (t : Task) (c : Call), (x₀.run ms).tasks[k]? = some t → t.job = .call c →
    ∀ frame, c.reply = .http frame → Worded x₀.scene.policy t.name c frame
  /-- A poll calls the inner service exactly when the gate admits the request; then it begins. -/
  called : ∀ (k : Nat) (t : Task) (c : Call), (x₀.run ms).tasks[k]? = some t → t.job = .call c →
    (k ∈ (x₀.run ms).called (.poll k) ↔
      ∃ guards s0, Acts t c (x₀.run ms).scene guards c.script.actions s0 ∧ t.isRunning = false)
  /-- A request is closed once at most. -/
  once : ((closings x₀ ms).map (·.request)).Nodup
  /-- Those that have been closed are those that have ended. -/
  ended : ∀ k, k ∈ (closings x₀ ms).map (·.request) ↔ ∃ t c,
    (x₀.run ms).tasks[k]? = some t ∧ t.job = .call c ∧ t.stage = .finished
  capacity : (x₀.run ms).scene.gate.counters.capacity
    = (closings x₀ ms).countP (·.isRefusal .capacity)
  timeout : (x₀.run ms).scene.gate.counters.timeout
    = (closings x₀ ms).countP (·.isRefusal (.timeout false))
  /-- Cancelled are those refused because their context has ended, and those cut off in the wait. -/
  cancelled : (x₀.run ms).scene.gate.counters.cancelled
    = (closings x₀ ms).countP (·.isRefusal (.timeout true))
      + (closings x₀ ms).countP (·.isForsaken)
  /-- Admitted are those whose inner service was called. -/
  admitted : (x₀.run ms).scene.gate.counters.admitted = (callings x₀ ms).length
  /-- It has answered, it runs, or it was cut off or panicked. -/
  served : (callings x₀ ms).length = (closings x₀ ms).countP (·.isAnswer)
    + (x₀.run ms).running.length + (closings x₀ ms).countP (·.isBroken)
  /-- No request counts twice: those admitted and those that count as any refusal all differ. -/
  apart : (callings x₀ ms ++ ((closings x₀ ms).filter (·.reason?.isSome)).map (·.request)).Nodup
  /-- So it is with the figures shown, which are machine words. -/
  shown : (x₀.run ms).scene.gate.snapshot.admitted = .ofNat (callings x₀ ms).length
    ∧ (x₀.run ms).scene.gate.snapshot.rejectedCapacity
      = .ofNat ((closings x₀ ms).countP (·.isRefusal .capacity))
    ∧ (x₀.run ms).scene.gate.snapshot.rejectedTimeout
      = .ofNat ((closings x₀ ms).countP (·.isRefusal (.timeout false)))
    ∧ (x₀.run ms).scene.gate.snapshot.rejectedCancelled
      = .ofNat ((closings x₀ ms).countP (·.isRefusal (.timeout true))
        + (closings x₀ ms).countP (·.isForsaken))

/-- The inner service is called by the polls in which it begins. -/
theorem Routed.mem_called_iff {x : Session} (hr : x.Routed) {k : Nat} {t : Task} {c : Call}
    (hk : x.tasks[k]? = some t) (hc : t.job = .call c) :
    k ∈ x.called (.poll k) ↔
      ∃ guards s0, Acts t c x.scene guards c.script.actions s0 ∧ t.isRunning = false := by
  have hcalled : k ∈ x.called (.poll k) ↔ t.station c x.scene = .asks .admitted := by
    rw [called_poll hk, isCalled_of_station hc]
    by_cases hst : t.station c x.scene = .asks .admitted <;> simp [hst]
  rw [hcalled]
  constructor
  · intro hst
    obtain ⟨guards, context, s0, hask⟩ := exists_asks_of_station hst
    refine ⟨guards, _, .begins hask (hr.reply_ne hk hc), ?_⟩
    rcases hask.unserved with hf | ⟨guards', context', hp⟩
    · exact isRunning_of_stage hf nofun
    · exact isRunning_of_stage hp nofun
  · rintro ⟨guards, s0, hact, hrun⟩
    cases hact with
    | begins hask => exact hask.station
    | goesOn hp =>
        rw [Task.isRunning_iff.mpr ⟨_, _, hp⟩] at hrun
        cases hrun

/-- **EVERY REQUEST IS CLOSED ONCE AT MOST, AND THE FOUR TOTALS SAY HOW**, in every run over an
accepted gate that is used through routers only. -/
theorem requests_accounted (o : Options) (g : Gate) (h : Gate.ofOptions o = .ok g)
    (policy : Policy) (site : Site) (metrics : Option Metrics) (ms : List Move)
    (hms : ∀ m ∈ ms, m.isRouted = true) : Ledger (ofGate g policy site metrics) ms := by
  have hstart := ofGate_sound h policy site metrics
  have hempty : (ofGate g policy site metrics).Routed := by
    intro t ht
    cases ht
  have hsound := hstart.run ms
  have hrouted := hempty.run hstart hms
  have hledger := hstart.ledgered_run rfl hms
  have hcounters := hstart.tallied_run hempty hms
  -- the counters start at zero, so what they show is what was closed in this run
  have hzero : (ofGate g policy site metrics).scene.gate.counters = .zero := by
    rw [show (ofGate g policy site metrics).scene.gate = g from rfl, Gate.World.eq_of_ofOptions h]
    rfl
  rw [hzero] at hcounters
  have hadmitted := hcounters.admitted
  rw [show Counters.zero.admitted = 0 from rfl, Nat.zero_add] at hadmitted
  have hrejected : ∀ reason,
      ((ofGate g policy site metrics).run ms).scene.gate.counters.rejected reason
        = (closings (ofGate g policy site metrics) ms).countP fun e => e.reason? = some reason := by
    intro reason
    rw [hcounters.rejected]
    cases reason with
    | capacity => exact Nat.zero_add _
    | timeout ambient => cases ambient <;> exact Nat.zero_add _
  have hcapacity := (hrejected .capacity).trans
    (List.countP_congr fun e _ => refused_iff e nofun)
  have htimeout := (hrejected (.timeout false)).trans
    (List.countP_congr fun e _ => refused_iff e nofun)
  have hcancelled := (hrejected (.timeout true)).trans
    (countP_of_either fun e _ => cancelled_split e)
  constructor
  case account =>
    exact fun k t c hk hc =>
      ⟨hrouted t (List.mem_of_getElem? hk) c hc, hledger.account k t c hk hc⟩
  case worded => exact fun _ t c _ _ frame hreply => Session.worded hreply _ t.name
  case called => exact fun k t c hk hc => hrouted.mem_called_iff hk hc
  case once => exact hledger.nodup
  case ended => exact hledger.mem_closed_iff
  case capacity => exact hcapacity
  case timeout => exact htimeout
  case cancelled => exact hcancelled
  case admitted => exact hadmitted
  case served => exact hledger.length_calls hsound
  case apart => exact hledger.apart
  case shown =>
    exact ⟨congrArg UInt64.ofNat hadmitted, congrArg UInt64.ofNat hcapacity,
      congrArg UInt64.ofNat htimeout, congrArg UInt64.ofNat hcancelled⟩

/-- Six requests to a page that takes 50 ms, behind a gate with one slot and room for one to wait, of
80 ms each: the first is answered, the second is dropped where it waits, and there is no room for the
third; the fourth is late while the page is made, the sixth while it waits for the fifth. -/
theorem requests_accounted_late_and_dropped :
    let x₀ := ofGate (Gate.ofLimits 1 2 .unbounded) .standard
      ⟨.ofMillis 50, some (.ofMillis 80)⟩ none
    let get (name : String) : Move := .tell (.http name none ⟨"GET", "/"⟩)
    let ms : List Move :=
      [get "a", get "b", get "c", .poll 0, .poll 1, .poll 2, .drop 1, get "d", .poll 3,
        .advance 50, .poll 0, .poll 3, .advance 30, .poll 3, get "e",
        .poll 4, get "f", .poll 5, .advance 80, .poll 5]
    Gate.ofOptions ((Options.ofLimit 1).withBacklog 1 .unbounded)
        = .ok (Gate.ofLimits 1 2 .unbounded)
      ∧ (∀ m ∈ ms, m.isRouted = true)
      ∧ closings x₀ ms = [⟨2, .outside, .refused .capacity⟩, ⟨1, .parked, .dropped⟩,
          ⟨0, .called, .answered⟩, ⟨3, .called, .late⟩, ⟨5, .parked, .late⟩]
      ∧ callings x₀ ms = [0, 3, 4]
      ∧ (x₀.run ms).scene.gate.counters = ⟨3, 1, 0, 2⟩
      ∧ Ledger x₀ ms := by
  intro x₀ get ms
  have hms : ∀ m ∈ ms, m.isRouted = true := by decide +kernel
  refine ⟨rfl, hms, by decide +kernel, by decide +kernel, by decide +kernel, ?_⟩
  exact requests_accounted ((Options.ofLimit 1).withBacklog 1 .unbounded) _ rfl _ _ _ ms hms

end Admission.Session

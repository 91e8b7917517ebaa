/-
  Admission.Proofs.Gate.Accounting — every call is counted once, as what became of it.

  A call ENDS when it gets its ticket, is turned away, or is dropped where it is parked.  Each of
  these turns moves one counter, and no other turn moves any: not the first poll that parks a call,
  not the hand-over of a run permit, not the release of a ticket.  So the counters count the ends in
  the history, and the calls that ended, together with those that are parked, are all calls that
  were ever polled, each of them once.

  Main results:
    * `Passage.admitted_count`, `Passage.rejected_count` — what a step counts;
    * `Passage.placed` — a step ends a call, parks it, or leaves it where it is;
    * `Sound.tallied_run` — the invariant `Tallied` holds after every run;
    * `calls_accounted` — **exact accounting**.
-/
import Admission.Proofs.Gate.Settled

namespace Admission.Gate

/-! ## §1. Ends. -/

/-- The turn ends its call. -/
def Turn.ends : Turn → Bool
  | .admitted | .rejected _ | .abandoned => true
  | _ => false

/-- The calls that ended, in the order in which they did. -/
def ended (past : List (Nat × Turn)) : List Nat := (past.filter (·.2.ends)).map (·.1)

/-- How many tickets were issued. -/
def admissions (past : List (Nat × Turn)) : Nat := past.countP fun e => e.2 == .admitted

/-- How many calls were refused for a reason. -/
def refusals (past : List (Nat × Turn)) (reason : Reason) : Nat :=
  past.countP fun e => e.2.reason? == some reason

theorem ended_append (past next : List (Nat × Turn)) :
    ended (past ++ next) = ended past ++ ended next := by
  simp [ended]

theorem admissions_append (past next : List (Nat × Turn)) :
    admissions (past ++ next) = admissions past + admissions next := List.countP_append

theorem refusals_append (past next : List (Nat × Turn)) (reason : Reason) :
    refusals (past ++ next) reason = refusals past reason + refusals next reason :=
  List.countP_append

/-- A run permit that is handed over ends no call. -/
theorem ended_handed (is : List Nat) : ended (is.map (·, .handed)) = [] := by
  simp [ended, List.filter_map, Turn.ends, Function.comp_def]

theorem admissions_handed (is : List Nat) : admissions (is.map (·, .handed)) = 0 := by
  simp [admissions, List.countP_map, List.countP_eq_zero]

theorem refusals_handed (is : List Nat) (reason : Reason) :
    refusals (is.map (·, .handed)) reason = 0 := by
  simp [refusals, List.countP_map, List.countP_eq_zero, Turn.reason?]

/-- A call that ended was admitted, or refused for one of the three reasons. -/
theorem length_ended (past : List (Nat × Turn)) : (ended past).length
    = admissions past + refusals past .capacity + refusals past (.timeout false)
      + refusals past (.timeout true) := by
  induction past with
  | nil => rfl
  | cons e past ih =>
      rw [ended, List.length_map, ← List.countP_eq_length_filter] at ih ⊢
      simp only [admissions, refusals, List.countP_cons] at ih ⊢
      rw [ih]
      obtain ⟨i, t⟩ := e
      -- three kinds of turns end a call, and each is counted in its own place
      cases t with
      | entered | handed | released => rfl
      | admitted =>
          simp [Turn.ends, Turn.reason?]
          omega
      | abandoned =>
          simp [Turn.ends, Turn.reason?]
          omega
      | rejected reason =>
          cases reason with
          | capacity =>
              simp [Turn.ends, Turn.reason?]
              omega
          | timeout ambient =>
              cases ambient <;> simp [Turn.ends, Turn.reason?] <;> omega

/-- A call that ended once has one end. -/
theorem eq_of_ends {past : List (Nat × Turn)} (hn : (ended past).Nodup) {i : Nat} {s t : Turn}
    (hs : (i, s) ∈ past) (ht : (i, t) ∈ past) (hse : s.ends = true) (hte : t.ends = true) :
    s = t := by
  have hmem : ∀ {r : Turn}, (i, r) ∈ past → r.ends = true →
      (i, r) ∈ past.filter (·.2.ends) := fun hr he => List.mem_filter.mpr ⟨hr, he⟩
  have heq := List.inj_on_of_nodup_map hn (hmem hs hse) (hmem ht hte) rfl
  exact congrArg Prod.snd heq

/-! ## §2. What a step counts. -/

theorem rejected_recordRejected (c : Counters) (reason other : Reason) :
    (c.recordRejected reason).rejected other
      = c.rejected other + if reason = other then 1 else 0 := by
  cases reason with
  | capacity =>
      cases other with
      | capacity => rfl
      | timeout ambient => cases ambient <;> rfl
  | timeout ambient =>
      cases other with
      | capacity => cases ambient <;> rfl
      | timeout ambient' => cases ambient <;> cases ambient' <;> rfl

theorem rejected_recordAdmitted (c : Counters) (reason : Reason) :
    c.recordAdmitted.rejected reason = c.rejected reason := by
  cases reason with
  | capacity => rfl
  | timeout ambient => cases ambient <;> rfl

theorem refusals_of_reason? {t : Turn} {reason : Reason} (h : t.reason? = some reason) (i : Nat)
    (other : Reason) : refusals [(i, t)] other = if reason = other then 1 else 0 := by
  simp [refusals, h]

theorem admissions_of_reason? {t : Turn} {reason : Reason} (h : t.reason? = some reason) (i : Nat) :
    admissions [(i, t)] = 0 := by
  cases t <;> simp [Turn.reason?, admissions] at h ⊢

theorem ended_of_reason? {t : Turn} {reason : Reason} (h : t.reason? = some reason) (i : Nat) :
    ended [(i, t)] = [i] := by
  cases t <;> simp [Turn.reason?, ended, Turn.ends] at h ⊢

variable {g g' : Gate} {n n' : Nat} {own : List (Nat × Turn)}

/-- The counter of tickets moves with the turns. -/
theorem Passage.admitted_count (hb : Balanced g 0 0) (hp : Passage g n g' n' own) :
    g'.counters.admitted = g.counters.admitted + admissions own := by
  cases hp with
  | refused reason => exact admitted_recordRejected _ _
  | admitted | entered | tookUp | forgotten | idle => rfl
  | left _ ht =>
      rw [counters_leave, admitted_recordRejected, admissions_of_reason? ht, Nat.add_zero]
  | released ht hl =>
      rw [counters_release hb ht hl]
      rfl
  | @discarded t ht hl =>
      show (g.release t.id).counters.admitted = _
      rw [counters_release hb ht hl]
      rfl

/-- The counters of refusals move with the turns. -/
theorem Passage.rejected_count (hb : Balanced g 0 0) (hp : Passage g n g' n' own)
    (reason : Reason) :
    g'.counters.rejected reason = g.counters.rejected reason + refusals own reason := by
  cases hp with
  | refused r =>
      rw [refusals_of_reason? (t := .rejected r) rfl]
      exact rejected_recordRejected _ _ _
  | admitted | tookUp => exact rejected_recordAdmitted _ _
  | entered | forgotten | idle => rfl
  | left _ ht => rw [counters_leave, rejected_recordRejected, refusals_of_reason? ht]
  | released ht hl =>
      rw [counters_release hb ht hl]
      rfl
  | @discarded t ht hl =>
      show (g.release t.id).counters.rejected reason = _
      rw [counters_release hb ht hl]
      rfl

/-! ## §3. Where the calls are. -/

section Places

variable {gone parked : List Nat}

theorem perm_range_ended (h : (gone ++ parked).Perm (List.range n)) :
    (gone ++ [n] ++ parked).Perm (List.range (n + 1)) := by
  rw [List.range_succ, List.append_assoc]
  exact (List.perm_append_comm.append_left gone).trans
    (by rw [← List.append_assoc]; exact h.append_right [n])

theorem perm_range_parked (h : (gone ++ parked).Perm (List.range n)) :
    (gone ++ (parked ++ [n])).Perm (List.range (n + 1)) := by
  rw [List.range_succ, ← List.append_assoc]
  exact h.append_right [n]

theorem perm_range_left (h : (gone ++ parked).Perm (List.range n)) (hn : parked.Nodup) {i : Nat}
    (hi : i ∈ parked) : (gone ++ [i] ++ parked.filter (· != i)).Perm (List.range n) := by
  rw [List.append_assoc, ← hn.erase_eq_filter i]
  exact ((List.perm_cons_erase hi).symm.append_left gone).trans h

end Places

/-- **WHERE A STEP PUTS THE CALLS**: if each of the `n` calls ended once or is parked, so it is with
the `n'` calls after the step. -/
theorem Passage.placed (hb : Balanced g 0 0) (hp : Passage g n g' n' own) {gone : List Nat}
    (h : (gone ++ g.waiters.map (·.id)).Perm (List.range n)) :
    ((gone ++ ended own) ++ g'.waiters.map (·.id)).Perm (List.range n') := by
  cases hp with
  | refused reason => exact perm_range_ended h
  | admitted => exact perm_range_ended h
  | entered =>
      rw [show ended [(n, Turn.entered)] = [] from rfl, List.append_nil]
      simp only [park, takeBacklog, List.map_append, List.map_cons, List.map_nil]
      exact perm_range_parked h
  | @tookUp u hu =>
      -- an admission ends the call, so it goes from the waiters to those that ended
      have hmem : u.id ∈ g.waiters.map (·.id) := List.mem_map_of_mem (mem_of_waiter? hu)
      have hleft := perm_range_left h hb.waiters_nodup hmem
      rwa [← map_id_unpark] at hleft
  | @left u hu t reason ht =>
      have hmem : u.id ∈ g.waiters.map (·.id) := List.mem_map_of_mem (mem_of_waiter? hu)
      rw [ended_of_reason? ht, map_id_leave]
      exact perm_range_left h hb.waiters_nodup hmem
  | @released t ht hl =>
      rw [show ended [(t.id, Turn.released)] = [] from rfl, List.append_nil,
        map_id_release hb ht hl]
      exact h
  | @discarded t ht hl =>
      rw [show ended [(t.id, Turn.released)] = [] from rfl, List.append_nil]
      show (gone ++ (g.release t.id).waiters.map (·.id)).Perm (List.range n)
      rw [map_id_release hb ht hl]
      exact h
  | forgotten =>
      rw [show ended [] = [] from rfl, List.append_nil]
      exact h
  | idle =>
      rw [show ended [] = [] from rfl, List.append_nil]
      exact h

/-! ## §4. The tally of a run. -/

namespace World

variable {w : World}

/-- **THE COUNTERS AND THE CALLS AGAINST THE HISTORY.** -/
structure Tallied (w : World) (past : List (Nat × Turn)) : Prop where
  admitted : w.gate.counters.admitted = admissions past
  rejected : ∀ reason, w.gate.counters.rejected reason = refusals past reason
  /-- Each call ended, once, or is parked. -/
  placed : (ended past ++ w.gate.waiters.map (·.id)).Perm (List.range w.calls.length)

theorem Sound.tallied_step (h : w.Sound) {past : List (Nat × Turn)} (ht : w.Tallied past)
    (a : Action) : (w.step a).1.Tallied (past ++ w.turns a) := by
  have hp := h.passage a
  -- nothing is counted for those to whom the step hands a run permit
  have hended : ended (w.turns a) = ended (w.ownTurns a) := by
    rw [turns, ended_append, ended_handed, List.append_nil]
  have hadmissions : admissions (w.turns a) = admissions (w.ownTurns a) := by
    rw [turns, admissions_append, admissions_handed, Nat.add_zero]
  have hrefusals : ∀ reason, refusals (w.turns a) reason = refusals (w.ownTurns a) reason := by
    intro reason
    rw [turns, refusals_append, refusals_handed, Nat.add_zero]
  refine ⟨?_, fun reason => ?_, ?_⟩
  · rw [admissions_append, hadmissions, ← ht.admitted]
    exact hp.admitted_count h.balanced
  · rw [refusals_append, hrefusals, ← ht.rejected]
    exact hp.rejected_count h.balanced reason
  · rw [ended_append, hended]
    exact hp.placed h.balanced ht.placed

/-- **AFTER EVERY RUN THE COUNTERS AGREE WITH THE HISTORY.** -/
theorem Sound.tallied_run (h : w.Sound) (ht : w.Tallied []) (as : List Action) :
    (w.run as).Tallied (w.history as) := by
  refine history_induction Tallied ?_ h ht as
  intro w past a hs ht
  exact hs.tallied_step ht a

theorem tallied_ofGate (limit capacity : Nat) (wait : BacklogWait) :
    (ofGate (Gate.ofLimits limit capacity wait)).Tallied [] := by
  refine ⟨rfl, fun reason => ?_, List.Perm.nil⟩
  cases reason with
  | capacity => rfl
  | timeout ambient => cases ambient <;> rfl

/-- Calls polled are calls counted and calls parked. -/
theorem Tallied.length_calls {past : List (Nat × Turn)} (h : w.Tallied past) :
    w.calls.length = w.gate.counters.admitted + w.gate.counters.capacity
      + w.gate.counters.timeout + w.gate.counters.cancelled + w.gate.waiters.length := by
  have hlen := h.placed.length_eq
  rw [List.length_append, List.length_range, List.length_map, length_ended, ← h.admitted,
    ← h.rejected, ← h.rejected, ← h.rejected] at hlen
  exact hlen.symm

theorem Tallied.ended_nodup {past : List (Nat × Turn)} (h : w.Tallied past) :
    (ended past).Nodup :=
  (List.nodup_append.mp (h.placed.nodup_iff.mpr List.nodup_range)).1

/-- Each call that was polled ended once, or is parked. -/
theorem Tallied.count_ended {past : List (Nat × Turn)} (h : w.Tallied past) {i : Nat}
    (hi : i < w.calls.length) :
    (ended past).count i = if i ∈ w.gate.waiters.map (·.id) then 0 else 1 := by
  have hnodup := h.placed.nodup_iff.mpr List.nodup_range
  have hcount := h.placed.count_eq i
  rw [List.count_append, List.count_eq_one_of_mem List.nodup_range (List.mem_range.mpr hi)]
    at hcount
  have hparked := (List.nodup_append.mp hnodup).2.1
  split
  next hm =>
    rw [List.count_eq_one_of_mem hparked hm] at hcount
    omega
  next hm =>
    rw [List.count_eq_zero_of_not_mem hm] at hcount
    omega

theorem Tallied.notMem_ended {past : List (Nat × Turn)} (h : w.Tallied past) {i : Nat}
    (hi : w.calls.length ≤ i) : i ∉ ended past := by
  intro hm
  have hrange := h.placed.subset (List.mem_append_left _ hm)
  rw [List.mem_range] at hrange
  omega

/-! ## §5. What a poll, a drop and a release count. -/

/-- The counters after a poll. -/
def counted (c : Counters) : Verdict → Counters
  | .admitted => c.recordAdmitted
  | .rejected reason => c.recordRejected reason
  | .parked => c

theorem counters_enter (g : Gate) {id : Nat} (hid : id ∉ g.waiters.map (·.id)) (now : Duration)
    (done : Bool) : (g.enter id now done).1.counters = counted g.counters (g.enter id now done).2 := by
  have he := enter_entry g hid now done
  generalize g.enter id now done = out at he ⊢
  cases he <;> rfl

theorem counters_resume (g : Gate) {id : Nat} {u : Waiter} (hu : g.waiter? id = some u)
    (now : Duration) (done : Bool) :
    (g.resume id now done).1.counters = counted g.counters (g.resume id now done).2 := by
  have hr := resume_resumption g hu now done
  generalize g.resume id now done = out at hr ⊢
  cases hr with
  | ended => exact counters_leave _ _ _
  | admitted => rfl
  | expired => exact counters_leave _ _ _
  | parked => rfl

/-- **A POLL COUNTS WHAT IT YIELDS.** -/
theorem Sound.counters_of_verdict (h : w.Sound) {a : Action} {v : Verdict}
    (hv : (w.step a).2 = some v) : (w.step a).1.gate.counters = counted w.gate.counters v := by
  cases a with
  | arrive c =>
      have hw : w.calls.length ∉ w.gate.waiters.map (·.id) := by
        intro hm
        exact h.fresh (List.mem_append_right _ hm)
      simp only [World.step, Option.some.injEq] at hv ⊢
      subst hv
      exact counters_enter w.gate hw w.now (c.isDone w.tokens w.now)
  | poll id =>
      obtain ⟨u, hu⟩ := exists_waiter_of_poll hv
      rw [step_poll hu] at hv ⊢
      simp only [Option.some.injEq] at hv ⊢
      subst hv
      exact counters_resume w.gate hu w.now (w.isOver id)
  | release id | discard id | abandon id | cancel t | advance d => cases hv

/-- Who is not parked leaves no trace when it is dropped. -/
theorem step_abandon_of_not_parked {i : Nat} (hi : i ∉ w.gate.waiters.map (·.id)) :
    w.step (.abandon i) = (w, none) := by
  have hnone : w.gate.waiter? i = none := waiter?_eq_none_iff.mpr hi
  show (({ w with gate := w.gate.abandon i } : World), (none : Option Verdict)) = _
  rw [abandon_of_none hnone]

/-- Who is parked counts as cancelled when it is dropped. -/
theorem Sound.counters_abandon (h : w.Sound) {u : Waiter} (hu : u ∈ w.gate.waiters) :
    (w.step (.abandon u.id)).1.gate.counters
      = w.gate.counters.recordRejected (.timeout true) := by
  have hf : w.gate.waiter? u.id = some u := find?_of_mem Waiter.id h.balanced.waiters_nodup hu
  show (w.gate.abandon u.id).counters = _
  rw [abandon_of_some hf]
  exact counters_leave _ _ _

/-- A ticket that is released or dropped moves no counter. -/
theorem Sound.counters_of_ticket (h : w.Sound) (i : Nat) :
    (w.gate.release i).counters = w.gate.counters
      ∧ (w.gate.discard i).counters = w.gate.counters := by
  have hdiscard : (w.gate.discard i).counters = (w.gate.release i).counters := rfl
  rw [hdiscard, and_self]
  by_cases hh : w.gate.holds i = true
  · obtain ⟨t, ht, hl⟩ := exists_ticket_of_holds hh
    have hid := id_of_ticket? ht
    subst hid
    exact counters_release h.balanced ht hl
  · rw [release_of_released (h.balanced.isReleased_of_not_holds (by simpa using hh))]

/-! ## §6. Exact accounting. -/

/-- Neither pool holds more permits than there are, and whoever is in flight is pending. -/
theorem Sound.unsaturated (h : w.Sound) : w.gate.freeRun ≤ w.gate.limit
    ∧ w.gate.freeBacklog ≤ w.gate.capacity ∧ w.gate.inFlight ≤ w.gate.pending := by
  have hrun := h.balanced.run_sum
  have hback := h.balanced.backlog_sum
  have hsplit := length_promised_add_line w.gate
  unfold inFlight pending
  omega

/-- **EXACT ACCOUNTING** of a gate with options `o`, in the world `w` and in the turns `past` that
led to it. -/
structure Accounted (o : Options) (w : World) (past : List (Nat × Turn)) : Prop where
  /-- Calls polled are calls counted and calls parked. -/
  total : w.calls.length = w.gate.counters.admitted + w.gate.counters.capacity
    + w.gate.counters.timeout + w.gate.counters.cancelled + w.gate.waiters.length
  /-- So it is with the figures shown, which are machine words. -/
  shown : UInt64.ofNat w.calls.length = w.gate.snapshot.admitted + w.gate.snapshot.rejectedCapacity
    + w.gate.snapshot.rejectedTimeout + w.gate.snapshot.rejectedCancelled
    + .ofNat w.gate.waiters.length
  admitted : w.gate.counters.admitted = admissions past
  rejected : ∀ reason, w.gate.counters.rejected reason = refusals past reason
  /-- Each call that was polled has one end; one that is parked has none yet. -/
  once : ∀ i < w.calls.length,
    (ended past).count i = if i ∈ w.gate.waiters.map (·.id) then 0 else 1
  /-- So a call whose ticket was issued counts as admitted and as nothing else. -/
  final : ∀ i s t, (i, s) ∈ past → (i, t) ∈ past → s.ends = true → t.ends = true → s = t
  /-- A poll counts what it yields. -/
  outcome : ∀ a v, (w.step a).2 = some v →
    (w.step a).1.gate.counters = counted w.gate.counters v
  /-- A call dropped where it is parked counts once, as cancelled. -/
  dropped : ∀ u ∈ w.gate.waiters, (w.step (.abandon u.id)).1.gate.counters
    = w.gate.counters.recordRejected (.timeout true)
  /-- A call dropped before its first poll counts nowhere. -/
  unpolled : ∀ i, w.calls.length ≤ i → w.step (.abandon i) = (w, none) ∧ i ∉ ended past
  /-- What becomes of a ticket counts nowhere. -/
  released : ∀ i, (w.step (.release i)).1.gate.counters = w.gate.counters
    ∧ (w.step (.discard i)).1.gate.counters = w.gate.counters
  /-- No difference between figures is cut off at zero. -/
  unsaturated : w.gate.freeRun ≤ w.gate.limit ∧ w.gate.freeBacklog ≤ w.gate.capacity
    ∧ w.gate.inFlight ≤ w.gate.pending
  /-- What the observer sees once the calls are polled. -/
  settled : w.Settled → w.gate.snapshot.inFlight.toNat = w.gate.live.length
    ∧ w.gate.snapshot.waiting.toNat = w.gate.waiters.length
    ∧ w.gate.snapshot.inFlight.toNat ≤ o.limit.toNat
    ∧ w.gate.snapshot.inFlight.toNat + w.gate.snapshot.waiting.toNat = w.gate.pending
    ∧ w.gate.pending ≤ o.limit.toNat + o.backlogLimit.toNat
    ∧ w.gate.snapshot.backlogCapacity.toNat = o.limit.toNat + o.backlogLimit.toNat

/-- The figures that an observer of a settled world sees. -/
theorem Sound.snapshot_of_settled (h : w.Sound) (hs : w.Settled)
    (hword : w.gate.capacity < UInt64.size) :
    w.gate.snapshot.inFlight.toNat = w.gate.live.length
      ∧ w.gate.snapshot.waiting.toNat = w.gate.waiters.length := by
  have hback := h.balanced.backlog_sum
  constructor
  · show (UInt64.ofNat w.gate.inFlight).toNat = _
    rw [h.inFlight_of_settled hs]
    exact UInt64.toNat_ofNat_of_lt' (by omega)
  · show (UInt64.ofNat w.gate.waiting).toNat = _
    rw [h.waiting_of_settled hs]
    exact UInt64.toNat_ofNat_of_lt' (by omega)

/-- **EVERY CALL IS COUNTED EXACTLY ONCE**, in every world that a run over an accepted gate
reaches. -/
theorem calls_accounted (o : Options) (g : Gate) (h : Gate.ofOptions o = .ok g)
    (as : List Action) : Accounted o ((ofGate g).run as) ((ofGate g).history as) := by
  obtain ⟨hsound, hlimit, hcap, -⟩ := sound_of_ofOptions h as
  have hword := capacity_lt_of_ofOptions h
  have hg := eq_of_ofOptions h
  subst hg
  have htally := (ofGate_sound _ _ o.wait).tallied_run (tallied_ofGate o.limit.toNat
    (o.limit.toNat + o.backlogLimit.toNat) o.wait) as
  generalize (ofGate _).run as = w at *
  generalize (ofGate _).history as = past at *
  have htotal := htally.length_calls
  constructor
  case total => exact htotal
  case shown =>
    rw [htotal]
    simp only [UInt64.ofNat_add]
    rfl
  case admitted => exact htally.admitted
  case rejected => exact htally.rejected
  case once => exact fun i hi => htally.count_ended hi
  case final => exact fun i s t hs ht hse hte => eq_of_ends htally.ended_nodup hs ht hse hte
  case outcome => exact fun a v hv => hsound.counters_of_verdict hv
  case dropped => exact fun u hu => hsound.counters_abandon hu
  case unpolled =>
    -- whose number has not been given out is not parked
    intro i hi
    refine ⟨step_abandon_of_not_parked ?_, htally.notMem_ended hi⟩
    intro hm
    have := hsound.known i (List.mem_append_right _ hm)
    omega
  case released => exact hsound.counters_of_ticket
  case unsaturated => exact hsound.unsaturated
  case settled =>
    intro hs
    obtain ⟨hflight, hwaiting⟩ := hsound.snapshot_of_settled hs (by omega)
    have hrun := hsound.balanced.run_sum
    have hback := hsound.balanced.backlog_sum
    have hshown : w.gate.snapshot.backlogCapacity.toNat = w.gate.capacity :=
      UInt64.toNat_ofNat_of_lt' (by omega)
    rw [hflight, hwaiting, hshown, pending]
    omega

/-- Of four calls one runs, one is parked and handed the slot, one is dropped where it is parked and
one finds the gate full; the call that was handed the slot is cancelled before it takes it up. -/
theorem calls_accounted_handed_then_cancelled :
    let as : List Action :=
      [.arrive ⟨none, ⟨0, []⟩, none⟩, .arrive ⟨none, ⟨1, []⟩, none⟩, .arrive ⟨none, ⟨2, []⟩, none⟩,
        .arrive ⟨none, ⟨3, []⟩, none⟩, .abandon 2, .release 0, .cancel ⟨1, []⟩, .poll 1]
    let w := (ofGate (Gate.ofLimits 1 3 .unbounded)).run as
    Gate.ofOptions ((Options.ofLimit 1).withBacklog 2 .unbounded)
        = .ok (Gate.ofLimits 1 3 .unbounded)
      ∧ w.Settled ∧ w.gate.counters = ⟨1, 1, 0, 2⟩
      ∧ Accounted ((Options.ofLimit 1).withBacklog 2 .unbounded) w
          ((ofGate (Gate.ofLimits 1 3 .unbounded)).history as) := by
  intro as w
  have hsettled : w.Settled := by
    refine ((ofGate_sound 1 3 .unbounded).run as).settled_iff.mpr fun u hu => ?_
    have hu : u ∈ ([] : List Waiter) := hu
    cases hu
  exact ⟨rfl, hsettled, by decide, calls_accounted _ _ rfl as⟩

end World

end Admission.Gate

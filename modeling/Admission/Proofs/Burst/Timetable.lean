/-
  Admission.Proofs.Burst.Timetable — who has a slot at which instant.

  At every instant the running requests of a burst and the parked ones are two ranges next to each
  other:

    running `first t … next t - 1`,   parked `next t … last t - 1`.

  A millisecond later the tickets are those from `cleared t` on before `filled t`, and the line goes
  on from `passed t` to `last t`.

  Main results: `running_iff`, `parked_iff`; what a millisecond does to a request
  (`ending_of_isLate`, `running_step`, `parked_step`) and to the ranges (`running_succ_range`,
  `parked_succ_range`).
-/
import Admission.Proofs.Burst.Ending

namespace Admission.Burst

/-! ## §1. Who runs and who waits. -/

/-- Requests that a backlog permit was there for. -/
def accepted (b : Burst) : Nat := min b.count b.capacity

/-- No request runs or waits any more: all have a deadline that has come, or the last batch that
anybody waited for has ended. -/
def isClosed (b : Burst) (t : Nat) : Bool := b.isLate t || b.isTooLong (t / b.delay * b.delay)

/-- The first request that runs. -/
def first (b : Burst) (t : Nat) : Nat :=
  if b.isClosed t then b.accepted else min b.accepted (t / b.delay * b.limit)

/-- The first request after those that run. -/
def next (b : Burst) (t : Nat) : Nat :=
  if b.isClosed t then b.accepted else min b.accepted (t / b.delay * b.limit + b.limit)

/-- The first request after those that wait. -/
def last (b : Burst) (t : Nat) : Nat :=
  if b.isClosed t ∨ b.isWeary t then b.next t else b.accepted

/-- **BATCHES**: a request belongs to batch `u`, to one before it, or to one after it. -/
theorem batch_cases (b : Burst) (k u : Nat) :
    (k < u * b.limit ∧ b.turn k + b.delay ≤ u * b.delay)
      ∨ (u * b.limit ≤ k ∧ k < u * b.limit + b.limit ∧ b.turn k = u * b.delay)
      ∨ (u * b.limit + b.limit ≤ k ∧ u * b.delay + b.delay ≤ b.turn k) := by
  have hl := b.limit_pos
  have hlow : k / b.limit * b.limit ≤ k := Nat.div_mul_le_self k b.limit
  have hhigh : k < k / b.limit * b.limit + b.limit := by
    have := Nat.lt_div_mul_add hl (a := k)
    omega
  unfold turn
  rcases Nat.lt_trichotomy (k / b.limit) u with h | h | h
  · have h1 : (k / b.limit + 1) * b.limit ≤ u * b.limit := Nat.mul_le_mul_right _ h
    have h2 : (k / b.limit + 1) * b.delay ≤ u * b.delay := Nat.mul_le_mul_right _ h
    rw [Nat.add_one_mul] at h1 h2
    exact .inl ⟨by omega, h2⟩
  · rw [h] at hlow hhigh ⊢
    exact .inr (.inl ⟨hlow, hhigh, rfl⟩)
  · have h1 : (u + 1) * b.limit ≤ k / b.limit * b.limit := Nat.mul_le_mul_right _ h
    have h2 : (u + 1) * b.delay ≤ k / b.limit * b.delay := Nat.mul_le_mul_right _ h
    rw [Nat.add_one_mul] at h1 h2
    exact .inr (.inr ⟨by omega, h2⟩)

/-- The batch of an instant has its turn by then, and the next one has not. -/
theorem batch_bounds (b : Burst) (t : Nat) :
    t / b.delay * b.delay ≤ t ∧ t < t / b.delay * b.delay + b.delay :=
  ⟨Nat.div_mul_le_self t b.delay, Nat.lt_div_mul_add b.delay_pos⟩

section

variable {b : Burst} {t k : Nat}

theorem first_le_next (b : Burst) (t : Nat) : b.first t ≤ b.next t := by
  unfold first next
  split <;> omega

theorem next_le_last (b : Burst) (t : Nat) : b.next t ≤ b.last t := by
  unfold last
  split
  · omega
  · unfold next
    split <;> omega

theorem last_le (b : Burst) (t : Nat) : b.last t ≤ b.count ∧ b.last t ≤ b.capacity := by
  unfold last next accepted
  split_ifs <;> omega

/-- While somebody waits, all slots are taken. -/
theorem next_eq_of_waiting (h : b.next t < b.last t) : b.next t = b.first t + b.limit := by
  unfold last at h
  split_ifs at h with h1
  · omega
  · simp only [not_or] at h1
    unfold first next at *
    simp only [h1.1, if_false, Bool.false_eq_true] at h ⊢
    omega

theorem running_iff (hk : k < b.count) :
    b.place t k = .running ↔ b.first t ≤ k ∧ k < b.next t := by
  rw [place_eq_running_iff]
  have hu := batch_bounds b t
  have hb := batch_cases b k (t / b.delay)
  unfold first next isClosed accepted
  generalize t / b.delay * b.delay = now at *
  generalize t / b.delay * b.limit = front at *
  by_cases hl : b.isLate t
  · simp only [hl, Bool.true_or, if_true, not_true, false_and, and_false, false_iff]
    omega
  · simp only [hl, Bool.false_or]
    by_cases hp : b.isTooLong now
    · -- the batch that would run now has given up in line
      simp only [hp, if_true]
      refine ⟨fun h => ?_, fun h => by omega⟩
      have hturn : b.turn k = now := by omega
      exact absurd (hturn ▸ hp) h.2.2.2.2
    · simp only [hp, if_false, Bool.false_eq_true]
      refine ⟨fun h => by omega, fun h => ?_⟩
      have hturn : b.turn k = now := by omega
      exact ⟨by omega, not_false, by omega, by omega, hturn ▸ hp⟩

theorem parked_iff (hk : k < b.count) :
    b.place t k = .parked ↔ b.next t ≤ k ∧ k < b.last t := by
  rw [place_eq_parked_iff]
  have hu := batch_bounds b t
  have hb := batch_cases b k (t / b.delay)
  unfold last next isClosed accepted
  generalize t / b.delay * b.delay = now at *
  generalize t / b.delay * b.limit = front at *
  by_cases hl : b.isLate t
  · simp only [hl, Bool.true_or, if_true, not_true, false_and, and_false, false_iff, true_or]
    omega
  · simp only [hl, Bool.false_or]
    by_cases hw : b.isWeary t
    · simp only [hw, or_true, if_true, not_true, and_false, false_iff]
      omega
    · -- whoever is still patient now was so at the turn of the batch that runs
      have hp : ¬ b.isTooLong now := by
        cases h : b.patience with
        | none => simp [isTooLong, h]
        | some p =>
            simp only [isWeary, isTooLong, h, Option.any_some, decide_eq_true_eq] at hw ⊢
            omega
      simp only [hp, hw, or_false, if_false, Bool.false_eq_true]
      constructor
      · intro h
        omega
      · intro h
        exact ⟨by omega, not_false, by omega, not_false⟩

theorem not_isLate_zero (b : Burst) : ¬ b.isLate 0 := by
  cases h : b.deadline with
  | none => simp [isLate, h]
  | some d =>
      have := b.deadline_pos d h
      simp only [isLate, h, Option.any_some, decide_eq_true_eq]
      omega

theorem not_isWeary_zero (b : Burst) : b.isWeary 0 = false := by
  cases h : b.wait with
  | none => simp [isWeary, patience, h]
  | some p =>
      have hpos := counted_pos (b.wait_pos p h)
      simp only [isWeary, patience, h, Option.map_some, Option.any_some]
      exact decide_eq_false (Nat.not_le.mpr hpos)

/-- At the start, the first batch runs. -/
theorem bounds_zero (b : Burst) :
    b.first 0 = 0 ∧ b.next 0 = min b.accepted b.limit ∧ b.last 0 = b.accepted := by
  have hl := not_isLate_zero b
  have hw := not_isWeary_zero b
  have hp : b.isTooLong 0 = false := by
    cases h : b.patience <;> simp [isTooLong, h]
  simp [first, next, last, isClosed, hl, hw, hp]

end

/-! ## §2. One more millisecond. -/

/-- A batch ends at `t`. -/
def isTurn (b : Burst) (t : Nat) : Prop := t / b.delay * b.delay = t

instance (b : Burst) (t : Nat) : Decidable (b.isTurn t) :=
  inferInstanceAs (Decidable (_ = _))

/-- The first of the requests that ran at `t` and have a ticket a millisecond later. -/
def cleared (b : Burst) (t : Nat) : Nat :=
  if b.isLate (t + 1) ∨ b.isTurn (t + 1) then b.next t else b.first t

/-- The first request that has no ticket a millisecond after `t`. -/
def filled (b : Burst) (t : Nat) : Nat :=
  if ¬ b.isLate (t + 1) ∧ b.isTurn (t + 1) then min (b.next t + b.limit) (b.last t) else b.next t

/-- The first of the requests that waited at `t` and wait a millisecond later. -/
def passed (b : Burst) (t : Nat) : Nat :=
  if b.isLate (t + 1) ∨ b.isWeary (t + 1) then b.last t else b.filled t

section

variable {b : Burst} {t k : Nat}

theorem isLate_mono {s : Nat} (h : b.isLate t) (hs : t ≤ s) : b.isLate s := by
  cases hd : b.deadline with
  | none => simp [isLate, hd] at h
  | some d =>
      simp only [isLate, hd, Option.any_some, decide_eq_true_eq] at h ⊢
      omega

/-- The clock comes to the next batch, or stays with the last one. -/
theorem turn_cases (b : Burst) (t : Nat) :
    (b.isTurn (t + 1) ∧ t + 1 = t / b.delay * b.delay + b.delay
        ∧ (t + 1) / b.delay * b.delay = t / b.delay * b.delay + b.delay
        ∧ (t + 1) / b.delay * b.limit = t / b.delay * b.limit + b.limit)
      ∨ (¬ b.isTurn (t + 1) ∧ t + 1 < t / b.delay * b.delay + b.delay
        ∧ (t + 1) / b.delay = t / b.delay) := by
  have hw := b.delay_pos
  obtain ⟨hle, hlt⟩ := batch_bounds b t
  by_cases h : t + 1 = t / b.delay * b.delay + b.delay
  · have hdiv : (t + 1) / b.delay = t / b.delay + 1 := by
      rw [h, ← Nat.add_one_mul, Nat.mul_div_cancel _ hw]
    refine .inl ⟨?_, h, ?_, ?_⟩
    · show (t + 1) / b.delay * b.delay = t + 1
      rw [hdiv, Nat.add_one_mul, ← h]
    · rw [hdiv, Nat.add_one_mul]
    · rw [hdiv, Nat.add_one_mul]
  · have hdiv : (t + 1) / b.delay = t / b.delay := by
      refine Nat.div_eq_of_lt_le ?_ ?_
      · omega
      · rw [Nat.add_one_mul]
        omega
    refine .inr ⟨?_, by omega, hdiv⟩
    show ¬ (t + 1) / b.delay * b.delay = t + 1
    rw [hdiv]
    omega

theorem next_le_filled (b : Burst) (t : Nat) : b.next t ≤ b.filled t := by
  have := next_le_last b t
  unfold filled
  split <;> omega

theorem filled_le_passed (b : Burst) (t : Nat) :
    b.filled t ≤ b.passed t ∧ b.passed t ≤ b.last t := by
  have := next_le_last b t
  unfold passed filled
  split_ifs <;> omega

theorem first_le_cleared (b : Burst) (t : Nat) :
    b.first t ≤ b.cleared t ∧ b.cleared t ≤ b.next t := by
  have := first_le_next b t
  unfold cleared
  split <;> omega

/-- While somebody stays in line, all slots are taken again. -/
theorem filled_eq (h : b.filled t < b.last t) (hl : ¬ b.isLate (t + 1)) :
    b.filled t = b.cleared t + b.limit := by
  have hle := next_le_filled b t
  have hw := next_eq_of_waiting (b := b) (t := t) (by omega)
  unfold filled cleared at *
  by_cases ht : b.isTurn (t + 1)
  · rw [if_pos ⟨hl, ht⟩] at h ⊢
    rw [if_pos (.inr ht)]
    omega
  · rw [if_neg fun hc => ht hc.2, if_neg fun hc => hc.elim hl ht]
    exact hw

/-- Whoever has ended stays so. -/
theorem ended_succ (h : b.place t k = .ended) : b.place (t + 1) k = .ended := by
  rw [place_eq_ended_iff] at h ⊢
  omega

/-- **THE DEADLINE COMES**: whoever has not ended is late. -/
theorem ending_of_isLate (hk : b.place t k ≠ .ended) (hl : b.isLate (t + 1)) :
    b.ending k = (t + 1, .late) := by
  -- the deadline had not come a millisecond before, so it comes now
  cases hp : b.place t k with
  | ended => exact absurd hp hk
  | running =>
      obtain ⟨hcap, hnl, -, hw, hturn⟩ := place_eq_running_iff.mp hp
      cases hd : b.deadline with
      | none => simp [isLate, hd] at hl
      | some d =>
          simp only [isLate, hd, Option.any_some, decide_eq_true_eq] at hl hnl
          have : d = t + 1 := by omega
          subst this
          exact ending_of_late hcap hd (by omega) (.inl hturn)
  | parked =>
      obtain ⟨hcap, hnl, hturn, hw⟩ := place_eq_parked_iff.mp hp
      cases hd : b.deadline with
      | none => simp [isLate, hd] at hl
      | some d =>
          simp only [isLate, hd, Option.any_some, decide_eq_true_eq] at hl hnl
          have : d = t + 1 := by omega
          subst this
          refine ending_of_late hcap hd (by omega) (.inr ?_)
          cases h : b.patience with
          | none => simp [isTooLong, h]
          | some p =>
              simp only [isWeary, isTooLong, h, Option.any_some, decide_eq_true_eq] at hw ⊢
              omega

/-- What can become of a running request. -/
theorem running_step (h : b.place t k = .running) (hl : ¬ b.isLate (t + 1)) :
    (b.isTurn (t + 1) ∧ b.turn k + b.delay = t + 1 ∧ b.ending k = (t + 1, .served))
      ∨ (¬ b.isTurn (t + 1) ∧ t + 1 < b.turn k + b.delay ∧ b.place (t + 1) k = .running) := by
  obtain ⟨hcap, -, hle, hlt, hp⟩ := place_eq_running_iff.mp h
  have hturn : b.turn k = t / b.delay * b.delay := by
    have := batch_cases b k (t / b.delay)
    have := batch_bounds b t
    omega
  rcases turn_cases b t with ⟨ht, heq, -, -⟩ | ⟨ht, hlt', -⟩
  · have hend : b.turn k + b.delay = t + 1 := by omega
    refine .inl ⟨ht, hend, ?_⟩
    rw [← hend]
    exact ending_of_served hcap hp (by rw [hend]; exact hl)
  · refine .inr ⟨ht, by omega, ?_⟩
    exact place_eq_running_iff.mpr ⟨hcap, hl, by omega, by omega, hp⟩

/-- What can become of a parked request: it has its turn, it gives up, or it stays. -/
theorem parked_step (hk : k < b.count) (h : b.place t k = .parked) (hl : ¬ b.isLate (t + 1)) :
    (k < b.filled t ∧ b.isTurn (t + 1) ∧ b.turn k = t + 1 ∧ b.place (t + 1) k = .running)
      ∨ (b.filled t ≤ k ∧ b.isWeary (t + 1) ∧ b.ending k = (t + 1, .refused (.timeout false)))
      ∨ (b.filled t ≤ k ∧ ¬ b.isWeary (t + 1) ∧ b.place (t + 1) k = .parked) := by
  obtain ⟨hnext, hlast⟩ := (parked_iff hk).mp h
  obtain ⟨hcap, -, hturn, hw⟩ := place_eq_parked_iff.mp h
  -- somebody waits, so the running batch is full and there is a request after it
  have hfront : b.next t = t / b.delay * b.limit + b.limit := by
    unfold last at hlast
    unfold next accepted at *
    split_ifs at hlast hnext ⊢ <;> omega
  have hacc := last_le b t
  have hfirst := batch_cases b k (t / b.delay)
  have hsecond := batch_cases b k (t / b.delay + 1)
  rw [Nat.add_one_mul, Nat.add_one_mul] at hsecond
  have hnow := batch_bounds b t
  have hweary : b.isTooLong (t + 1) → False := by
    cases hp : b.patience with
    | none => simp [isTooLong, hp]
    | some p =>
        simp only [isWeary, isTooLong, hp, Option.any_some, decide_eq_true_eq] at hw ⊢
        omega
  -- beyond the batch that has its turn now, the turn of a request is later than this instant
  have hrest : t + 1 < b.turn k →
      (b.isWeary (t + 1) ∧ b.ending k = (t + 1, .refused (.timeout false)))
        ∨ (¬ b.isWeary (t + 1) ∧ b.place (t + 1) k = .parked) := by
    intro hlater
    by_cases hw' : b.isWeary (t + 1)
    · refine .inl ⟨hw', ?_⟩
      cases hp : b.patience with
      | none => simp [isWeary, hp] at hw'
      | some p =>
          simp only [isWeary, hp, Option.any_some, decide_eq_true_eq] at hw hw'
          have : p = t + 1 := by omega
          subst this
          exact ending_of_expired hcap hp hlater hl
    · exact .inr ⟨hw', place_eq_parked_iff.mpr ⟨hcap, hl, hlater, hw'⟩⟩
  unfold filled
  rcases turn_cases b t with ⟨ht, heq, -, -⟩ | ⟨ht, hlt, -⟩
  · rw [if_pos ⟨hl, ht⟩]
    by_cases hin : k < min (b.next t + b.limit) (b.last t)
    · have hturn' : b.turn k = t + 1 := by omega
      refine .inl ⟨hin, ht, hturn', place_eq_running_iff.mpr ⟨hcap, hl, by omega, ?_, ?_⟩⟩
      · have := b.delay_pos
        omega
      · rw [hturn']
        exact hweary
    · exact .inr ((hrest (by have := b.delay_pos; omega)).imp (⟨by omega, ·⟩) (⟨by omega, ·⟩))
  · rw [if_neg fun hc => ht hc.2]
    exact .inr ((hrest (by omega)).imp (⟨hnext, ·⟩) (⟨hnext, ·⟩))

theorem running_succ_iff (hk : k < b.count) :
    b.place (t + 1) k = .running ↔ b.cleared t ≤ k ∧ k < b.filled t := by
  have hc := first_le_cleared b t
  have hf := next_le_filled b t
  have hp := filled_le_passed b t
  have hr := running_iff (b := b) (t := t) hk
  have hq := parked_iff (b := b) (t := t) hk
  by_cases hl : b.isLate (t + 1)
  · -- the deadline has come: the range is empty, and nobody runs
    have hnr : b.place (t + 1) k ≠ .running := fun h => (place_eq_running_iff.mp h).2.1 hl
    rw [cleared, if_pos (.inl hl), filled, if_neg fun hc => hc.1 hl]
    simp only [hnr, false_iff]
    omega
  · cases h : b.place t k with
    | ended =>
        simp only [h, reduceCtorEq, false_iff] at hr hq
        simp only [ended_succ h, reduceCtorEq, false_iff]
        omega
    | running =>
        have hin := hr.mp h
        rcases running_step h hl with ⟨ht, -, he⟩ | ⟨ht, -, h'⟩
        · have h' : b.place (t + 1) k = .ended := ended_of_ending he
          rw [cleared, if_pos (.inr ht)]
          simp only [h', reduceCtorEq, false_iff]
          omega
        · rw [cleared, if_neg fun hc => hc.elim hl ht]
          simp only [h', true_iff]
          omega
    | parked =>
        have hin := hq.mp h
        rcases parked_step hk h hl with ⟨hlt, -, -, h'⟩ | ⟨hge, -, he⟩ | ⟨hge, -, h'⟩
        · simp only [h', true_iff]
          omega
        · have h' : b.place (t + 1) k = .ended := ended_of_ending he
          simp only [h', reduceCtorEq, false_iff]
          omega
        · simp only [h', reduceCtorEq, false_iff]
          omega

theorem parked_succ_iff (hk : k < b.count) :
    b.place (t + 1) k = .parked ↔ b.passed t ≤ k ∧ k < b.last t := by
  have hf := next_le_filled b t
  have hp := filled_le_passed b t
  have hn := first_le_next b t
  have hr := running_iff (b := b) (t := t) hk
  have hq := parked_iff (b := b) (t := t) hk
  by_cases hl : b.isLate (t + 1)
  · have hnp : b.place (t + 1) k ≠ .parked := fun h => (place_eq_parked_iff.mp h).2.1 hl
    rw [passed, if_pos (.inl hl)]
    simp only [hnp, false_iff]
    omega
  · cases h : b.place t k with
    | ended =>
        simp only [h, reduceCtorEq, false_iff] at hr hq
        simp only [ended_succ h, reduceCtorEq, false_iff]
        omega
    | running =>
        have hin := hr.mp h
        have h' : b.place (t + 1) k ≠ .parked := by
          rcases running_step h hl with ⟨-, -, he⟩ | ⟨-, -, h'⟩
          · rw [ended_of_ending he]
            exact Place.noConfusion
          · rw [h']
            exact Place.noConfusion
        simp only [h', false_iff]
        omega
    | parked =>
        -- its turn has come, or its patience is over, or it waits on
        have hin := hq.mp h
        rcases parked_step hk h hl with ⟨hlt, -, -, h'⟩ | ⟨hge, hw, he⟩ | ⟨hge, hw, h'⟩
        · simp only [h', reduceCtorEq, false_iff]
          omega
        · have h' : b.place (t + 1) k = .ended := ended_of_ending he
          rw [passed, if_pos (.inr hw)]
          simp only [h', reduceCtorEq, false_iff]
          omega
        · rw [passed, if_neg fun hc => hc.elim hl hw]
          simp only [h', true_iff]
          omega

/-- Ranges with the same members are the same, or both empty. -/
theorem range_unique {n a c d e : Nat} (hc : c ≤ n) (he : e ≤ n)
    (h : ∀ k < n, (a ≤ k ∧ k < c) ↔ (d ≤ k ∧ k < e)) :
    (d = a ∧ e = c) ∨ (c ≤ a ∧ e ≤ d) := by
  by_cases hac : a < c
  · have h1 := h a (by omega)
    have h2 := h (c - 1) (by omega)
    have h3 := h d
    have h4 := h (e - 1)
    omega
  · by_cases hde : d < e
    · have := h d (by omega)
      omega
    · exact .inr ⟨by omega, by omega⟩

theorem running_succ_range (b : Burst) (t : Nat) :
    (b.first (t + 1) = b.cleared t ∧ b.next (t + 1) = b.filled t)
      ∨ (b.filled t ≤ b.cleared t ∧ b.next (t + 1) ≤ b.first (t + 1)) := by
  have hp := filled_le_passed b t
  have hl := last_le b t
  have hn := next_le_last b (t + 1)
  have hl' := last_le b (t + 1)
  refine range_unique (n := b.count) (by omega) (by omega) fun k hk => ?_
  rw [← running_succ_iff hk, running_iff hk]

theorem parked_succ_range (b : Burst) (t : Nat) :
    (b.next (t + 1) = b.passed t ∧ b.last (t + 1) = b.last t)
      ∨ (b.last t ≤ b.passed t ∧ b.last (t + 1) ≤ b.next (t + 1)) := by
  have hl := last_le b t
  have hl' := last_le b (t + 1)
  refine range_unique (n := b.count) (by omega) (by omega) fun k hk => ?_
  rw [← parked_succ_iff hk, parked_iff hk]

end

end Admission.Burst

/-
  Admission.Proofs.Burst.Ending — how each request of a burst ends.

  A BURST is `count` requests that come at once, at the start of the clock, to a gate with `limit`
  slots and a backlog.  The slots are passed on in BATCHES of `limit`: request `k` has its turn at
  `k / limit * delay` milliseconds, unless it has given up by then.  `ending` is the law that bursts
  obey; `place` says of every instant where a request is.

  Main results: `ending_ends` — the ways to end, each with its reason; `place_eq_ended_iff` — a
  request has ended iff the time that the law gives it has come.
-/
import Mathlib.Tactic.SplitIfs
import Admission.Session.Basic

namespace Admission

/-! ## §1. Bursts. -/

/-- Requests that come at once to an idle server.  Spans are in whole milliseconds; one that is not
there never ends. -/
structure Burst where
  /-- How many requests run at once. -/
  limit : Nat
  /-- How many more may wait. -/
  backlog : Nat
  /-- How long a request may wait for a slot. -/
  wait : Option Nat
  /-- How long the page takes. -/
  work : Nat
  /-- How long a request may take at all. -/
  deadline : Option Nat
  /-- How many requests come. -/
  count : Nat
  limit_pos : 0 < limit
  work_pos : 0 < work
  wait_pos : ∀ p ∈ wait, 0 < p
  deadline_pos : ∀ d ∈ deadline, 0 < d
  permits_le : limit + backlog ≤ Options.maxPermits

namespace Burst

/-- How a request ends. -/
inductive Outcome where
  /-- The page. -/
  | served
  /-- The gate refuses it. -/
  | refused (reason : Reason)
  /-- Its deadline comes first. -/
  | late
deriving DecidableEq

/-- How many requests may run or wait. -/
def capacity (b : Burst) : Nat := b.limit + b.backlog

def backlogWait (b : Burst) : BacklogWait :=
  match b.wait with
  | some p => .upTo (.ofMillis p)
  | none => .unbounded

/-- What the gate is built from. -/
def options (b : Burst) : Options :=
  (Options.ofLimit (.ofNat b.limit)).withBacklog (.ofNat b.backlog) b.backlogWait

/-- The milliseconds that a timer counts which is set for `n` of them: it never counts more than
thirty years. -/
def counted (n : Nat) : Nat := min n Timer.farAway.wholeMillis

theorem counted_pos {n : Nat} (h : 0 < n) : 0 < counted n := by
  have hfar : 0 < Timer.farAway.wholeMillis := by decide
  unfold counted
  omega

theorem span_ofMillis (n : Nat) : Timer.span (.ofMillis n) = .ofMillis (counted n) := by
  have hfar : Timer.farAway.nanos = 1000000 * Timer.farAway.wholeMillis := by decide
  have hspan := Timer.nanos_span (.ofMillis n)
  show (⟨(Timer.span (.ofMillis n)).nanos⟩ : Duration) = ⟨1000000 * counted n⟩
  rw [hspan, hfar]
  refine congrArg Duration.mk ?_
  show min (1000000 * n) _ = 1000000 * min n _
  omega

/-- How long the gate lets a request wait. -/
def patience (b : Burst) : Option Nat := b.wait.map counted

/-- How long the page lets a request sleep. -/
def delay (b : Burst) : Nat := counted b.work

theorem delay_pos (b : Burst) : 0 < b.delay := counted_pos b.work_pos

/-- **THE BURST LAW** where requests wait no longer than `patience` and the page takes `delay`: when
request `k` ends, and how. -/
def endingWithin (b : Burst) (patience : Option Nat) (delay k : Nat) : Nat × Outcome :=
  let q := k / b.limit
  if b.capacity ≤ k then (0, .refused .capacity)
  else if patience.all (q * delay ≤ ·) ∧ b.deadline.all ((q + 1) * delay < ·) then
    ((q + 1) * delay, .served)
  else if patience.any fun p => p < q * delay ∧ b.deadline.all (p < ·) then
    (patience.getD 0, .refused (.timeout false))
  else (b.deadline.getD 0, .late)

/-- The law with the spans that the timers count. -/
def ending (b : Burst) (k : Nat) : Nat × Outcome := b.endingWithin b.patience b.delay k

/-! ## §2. Where a request is. -/

/-- Where a request is once it has come. -/
inductive Place where
  | parked
  | running
  | ended
deriving DecidableEq

/-- When a request has its turn. -/
def turn (b : Burst) (k : Nat) : Nat := k / b.limit * b.delay

/-- The deadline of all has come. -/
def isLate (b : Burst) (t : Nat) : Bool := b.deadline.any (· ≤ t)

/-- Whoever waits gives up. -/
def isWeary (b : Burst) (t : Nat) : Bool := b.patience.any (· ≤ t)

/-- Whoever had to wait so long has given up before. -/
def isTooLong (b : Burst) (t : Nat) : Bool := b.patience.any (· < t)

/-- Where request `k` is at `t` milliseconds, when nothing changes any more. -/
def place (b : Burst) (t k : Nat) : Place :=
  if b.capacity ≤ k ∨ b.isLate t then .ended
  else if t < b.turn k then if b.isWeary t then .ended else .parked
  else if b.isTooLong (b.turn k) ∨ b.turn k + b.delay ≤ t then .ended
  else .running

section

variable {b : Burst} {t k : Nat}

theorem place_eq_running_iff : b.place t k = .running
    ↔ k < b.capacity ∧ ¬ b.isLate t ∧ b.turn k ≤ t ∧ t < b.turn k + b.delay
      ∧ ¬ b.isTooLong (b.turn k) := by
  unfold place
  split_ifs with h1 h2 h3 h4
  · simp only [false_iff]
    rintro ⟨hk, hl, -⟩
    rcases h1 with h1 | h1
    · omega
    · exact hl h1
  · simp only [false_iff]
    omega
  · simp only [false_iff]
    omega
  · simp only [false_iff]
    rintro ⟨-, -, -, hw, hp⟩
    rcases h4 with h4 | h4
    · exact hp h4
    · omega
  · simp only [not_or] at h1 h4
    simp only [true_iff]
    exact ⟨by omega, h1.2, by omega, by omega, h4.1⟩

theorem place_eq_parked_iff : b.place t k = .parked
    ↔ k < b.capacity ∧ ¬ b.isLate t ∧ t < b.turn k ∧ ¬ b.isWeary t := by
  unfold place
  split_ifs with h1 h2 h3 h4
  · simp only [false_iff]
    rintro ⟨hk, hl, -⟩
    rcases h1 with h1 | h1
    · omega
    · exact hl h1
  · simp only [false_iff]
    exact fun h => h.2.2.2 h3
  · simp only [not_or] at h1
    simp only [true_iff]
    exact ⟨by omega, h1.2, h2, h3⟩
  · simp only [false_iff]
    exact fun h => h2 h.2.2.1
  · simp only [false_iff]
    exact fun h => h2 h.2.2.1

end

/-! ## §3. The law, outcome by outcome. -/

section

variable {b : Burst} {t k : Nat}

theorem ending_of_full (h : b.capacity ≤ k) : b.ending k = (0, .refused .capacity) := by
  simp only [ending, endingWithin, h, if_true]

theorem ending_of_served (hk : k < b.capacity) (hp : ¬ b.isTooLong (b.turn k))
    (hd : ¬ b.isLate (b.turn k + b.delay)) : b.ending k = (b.turn k + b.delay, .served) := by
  have hturn : (k / b.limit + 1) * b.delay = b.turn k + b.delay := by
    rw [turn, Nat.add_one_mul]
  have hp' : b.patience.all (b.turn k ≤ ·) := by
    cases h : b.patience with
    | none => rfl
    | some p => simpa [isTooLong, h] using hp
  have hd' : b.deadline.all (b.turn k + b.delay < ·) := by
    cases h : b.deadline with
    | none => rfl
    | some d => simpa [isLate, h] using hd
  simp only [ending, endingWithin, hturn]
  rw [if_neg (by omega), if_pos ⟨hp', hd'⟩]

theorem ending_of_expired (hk : k < b.capacity) {p : Nat} (hp : b.patience = some p)
    (hturn : p < b.turn k) (hd : ¬ b.isLate p) :
    b.ending k = (p, .refused (.timeout false)) := by
  have hd' : b.deadline.all (p < ·) := by
    cases h : b.deadline with
    | none => rfl
    | some d => simpa [isLate, h] using hd
  have hturn' : p < k / b.limit * b.delay := hturn
  simp only [ending, endingWithin, hp]
  rw [if_neg (by omega), if_neg, if_pos]
  · rfl
  · simp [hturn', hd']
  · simp only [Option.all_some, decide_eq_true_eq]
    omega

theorem ending_of_late (hk : k < b.capacity) {d : Nat} (hd : b.deadline = some d)
    (hturn : d ≤ b.turn k + b.delay) (hp : ¬ b.isTooLong (b.turn k) ∨ ¬ b.isTooLong d) :
    b.ending k = (d, .late) := by
  have hturn' : (k / b.limit + 1) * b.delay = b.turn k + b.delay := by
    rw [turn, Nat.add_one_mul]
  simp only [ending, endingWithin, hd, hturn']
  rw [if_neg (by omega), if_neg, if_neg]
  · rfl
  · cases h : b.patience with
    | none => simp
    | some p =>
        simp only [isTooLong, h, Option.any_some, decide_eq_true_eq, Option.all_some] at hp ⊢
        show ¬ (p < b.turn k ∧ p < d)
        omega
  · simp only [Option.all_some, decide_eq_true_eq]
    omega

/-- The ways to end. -/
inductive Ends (b : Burst) (k : Nat) : Nat × Outcome → Prop where
  | full (h : b.capacity ≤ k) : Ends b k (0, .refused .capacity)
  | served (h : k < b.capacity) (hp : ¬ b.isTooLong (b.turn k))
      (hd : ¬ b.isLate (b.turn k + b.delay)) : Ends b k (b.turn k + b.delay, .served)
  | expired (h : k < b.capacity) {p : Nat} (hp : b.patience = some p) (hturn : p < b.turn k)
      (hd : ¬ b.isLate p) : Ends b k (p, .refused (.timeout false))
  | late (h : k < b.capacity) {d : Nat} (hd : b.deadline = some d) (hturn : d ≤ b.turn k + b.delay)
      (hp : ¬ b.isTooLong (b.turn k) ∨ ¬ b.isTooLong d) : Ends b k (d, .late)

theorem ending_ends (b : Burst) (k : Nat) : Ends b k (b.ending k) := by
  by_cases hk : b.capacity ≤ k
  · rw [ending_of_full hk]
    exact .full hk
  · have hk : k < b.capacity := Nat.lt_of_not_le hk
    by_cases hserved : ¬ b.isTooLong (b.turn k) ∧ ¬ b.isLate (b.turn k + b.delay)
    · rw [ending_of_served hk hserved.1 hserved.2]
      exact .served hk hserved.1 hserved.2
    · by_cases hexp : ∃ p, b.patience = some p ∧ p < b.turn k ∧ ¬ b.isLate p
      · obtain ⟨p, hp, hturn, hd⟩ := hexp
        rw [ending_of_expired hk hp hturn hd]
        exact .expired hk hp hturn hd
      · -- neither the page nor the gate's timer came first, so there is a deadline
        obtain ⟨d, hd, hturn, hp⟩ : ∃ d, b.deadline = some d ∧ d ≤ b.turn k + b.delay
            ∧ (¬ b.isTooLong (b.turn k) ∨ ¬ b.isTooLong d) := by
          cases hd : b.deadline with
          | none =>
              cases hp : b.patience <;> simp [isLate, isTooLong, hp, hd] at hserved hexp
              omega
          | some d =>
              cases hp : b.patience <;> simp [isLate, isTooLong, hp, hd] at hserved hexp ⊢ <;> omega
        rw [ending_of_late hk hd hturn hp]
        exact .late hk hd hturn hp

/-- **A REQUEST HAS ENDED** iff the time that the law gives it has come. -/
theorem place_eq_ended_iff : b.place t k = .ended ↔ (b.ending k).1 ≤ t := by
  -- the page takes time: a request that is served has not ended when it has its turn
  have hw := b.delay_pos
  have he := ending_ends b k
  generalize b.ending k = out at he ⊢
  cases he with
  | full h => simp [place, h]
  | served h hp hd =>
      cases hdd : b.deadline <;> cases hpp : b.patience <;>
        simp [place, isLate, isWeary, isTooLong, hdd, hpp] at hp hd ⊢ <;>
        split_ifs <;> simp <;> omega
  | @expired h p hpp hturn hd =>
      cases hdd : b.deadline <;>
        simp [place, isLate, isWeary, isTooLong, hdd, hpp] at hd ⊢ <;>
        split_ifs <;> simp <;> omega
  | @late h d hdd hturn hp =>
      cases hpp : b.patience <;>
        simp [place, isLate, isWeary, isTooLong, hdd, hpp] at hp ⊢ <;>
        split_ifs <;> simp <;> omega

theorem ended_of_ending {o : Outcome} (h : b.ending k = (t, o)) : b.place t k = .ended := by
  have htime : (b.ending k).1 = t := congrArg Prod.fst h
  exact place_eq_ended_iff.mpr (Nat.le_of_eq htime)

end

end Burst

end Admission

/-
  Admission.Proofs.Gate.Lineup — gates whose tickets and places are two ranges of numbers.

  Requests that come to a gate in the order of their numbers are served in that order.  The tickets
  are then a range of numbers, the parked requests are another, and the run permits that were handed
  on are with the FIRST of those, as many as the tickets leave.  `Arrayed` says that of a gate: its
  tickets are those of `a … b - 1`, and parked are `c … d - 1`, all since the start of the clock.

  Main results: `Arrayed.enter_admitted`, `Arrayed.enter_parked`, `Arrayed.enter_full`,
  `Arrayed.resume_admitted`, `Arrayed.resume_expired`, `Arrayed.resume_parked`, `Arrayed.abandon`,
  `Arrayed.discard` — an operation at the edge of a range moves that edge by one.
-/
import Mathlib.Data.List.Intervals
import Admission.Proofs.Gate.World

namespace Admission.Gate

/-! ## §1. Ranges. -/

/-- The tickets of the requests from `lo` on, before `hi`. -/
def ticketsOf (lo hi : Nat) : List Ticket := (List.Ico lo hi).map fun i => ⟨i, true, true⟩

/-- The requests from `lo` on, before `hi`, parked; those before `mark` have a run permit. -/
def lineUp (lo hi mark : Nat) : List Waiter :=
  (List.Ico lo hi).map fun i => ⟨i, .zero, decide (i < mark)⟩

theorem map_id_ticketsOf (lo hi : Nat) : (ticketsOf lo hi).map (·.id) = List.Ico lo hi := by
  rw [ticketsOf, List.map_map]
  exact List.map_id _

theorem map_id_lineUp (lo hi mark : Nat) : (lineUp lo hi mark).map (·.id) = List.Ico lo hi := by
  rw [lineUp, List.map_map]
  exact List.map_id _

theorem mem_lineUp {lo hi mark : Nat} {w : Waiter} :
    w ∈ lineUp lo hi mark ↔ ∃ i, lo ≤ i ∧ i < hi ∧ w = ⟨i, .zero, decide (i < mark)⟩ := by
  simp only [lineUp, List.mem_map, List.Ico.mem]
  constructor
  · rintro ⟨i, ⟨h1, h2⟩, rfl⟩
    exact ⟨i, h1, h2, rfl⟩
  · rintro ⟨i, h1, h2, rfl⟩
    exact ⟨i, ⟨h1, h2⟩, rfl⟩

theorem lineUp_cons {lo hi : Nat} (h : lo < hi) (mark : Nat) :
    lineUp lo hi mark = ⟨lo, .zero, decide (lo < mark)⟩ :: lineUp (lo + 1) hi mark := by
  rw [lineUp, List.Ico.eq_cons h, List.map_cons, lineUp]

theorem lineUp_eq_nil {lo hi : Nat} (h : hi ≤ lo) (mark : Nat) : lineUp lo hi mark = [] := by
  rw [lineUp, List.Ico.eq_nil_of_le h, List.map_nil]

/-- Marks that agree on the range make the same line. -/
theorem lineUp_congr {lo hi m m' : Nat} (h : ∀ i, lo ≤ i → i < hi → (i < m ↔ i < m')) :
    lineUp lo hi m = lineUp lo hi m' := by
  refine List.map_congr_left fun i hi => ?_
  obtain ⟨h1, h2⟩ := List.Ico.mem.mp hi
  rw [decide_eq_decide.mpr (h i h1 h2)]

theorem filter_ne_lineUp {lo hi : Nat} (h : lo < hi) (mark : Nat) :
    (lineUp lo hi mark).filter (fun w => w.id != lo) = lineUp (lo + 1) hi mark := by
  have hlo : lo ∉ (lineUp (lo + 1) hi mark).map (·.id) := by
    rw [map_id_lineUp, List.Ico.mem]
    omega
  rw [lineUp_cons h, List.filter_cons_of_neg (by simp), filter_ne_of_notMem _ hlo]

theorem filter_ne_ticketsOf {lo hi : Nat} (h : lo < hi) :
    (ticketsOf lo hi).filter (fun t => t.id != lo) = ticketsOf (lo + 1) hi := by
  have hlo : lo ∉ (ticketsOf (lo + 1) hi).map (·.id) := by
    rw [map_id_ticketsOf, List.Ico.mem]
    omega
  have hcons : ticketsOf lo hi = ⟨lo, true, true⟩ :: ticketsOf (lo + 1) hi := by
    rw [ticketsOf, List.Ico.eq_cons h, List.map_cons, ticketsOf]
  rw [hcons, List.filter_cons_of_neg (by simp), filter_ne_of_notMem _ hlo]

/-- The next run permit goes to the request at the mark. -/
theorem handFirst_lineUp (n : Nat) : ∀ lo hi mark : Nat, hi - lo = n → lo ≤ mark →
    (handFirst (lineUp lo hi mark)).getD (lineUp lo hi mark) = lineUp lo hi (mark + 1) := by
  induction n with
  | zero =>
      intro lo hi mark hn _
      rw [lineUp_eq_nil (by omega), lineUp_eq_nil (by omega)]
      rfl
  | succ n ih =>
      intro lo hi mark hn hm
      rw [lineUp_cons (by omega), lineUp_cons (by omega) (mark + 1)]
      by_cases h : lo < mark
      · -- the head has a run permit already
        have hih := ih (lo + 1) hi mark (by omega) (by omega)
        simp only [handFirst, h, decide_true, if_true, show lo < mark + 1 from by omega]
        rw [← hih]
        cases handFirst (lineUp (lo + 1) hi mark) <;> rfl
      · have hrest : lineUp (lo + 1) hi mark = lineUp (lo + 1) hi (mark + 1) :=
          lineUp_congr fun i _ _ => by omega
        rw [hrest, decide_eq_false h, decide_eq_true (show lo < mark + 1 from by omega)]
        rfl

theorem waiters_returnRun (g : Gate) :
    g.returnRun.waiters = (handFirst g.waiters).getD g.waiters := by
  unfold returnRun
  cases handFirst g.waiters <;> rfl

/-! ## §2. Gates in order. -/

/-- **A GATE IN ORDER**: tickets `a … b - 1` and parked requests `c … d - 1`. -/
structure Arrayed (limit capacity : Nat) (wait : BacklogWait) (a b c d : Nat) (g : Gate) :
    Prop where
  limit_eq : g.limit = limit
  capacity_eq : g.capacity = capacity
  wait_eq : g.wait = wait
  balanced : Balanced g 0 0
  tickets_eq : g.tickets = ticketsOf a b
  /-- Whatever run permits the tickets leave are with the first in line. -/
  waiters_eq : g.waiters = lineUp c d (c + limit - (b - a))

namespace Arrayed

variable {limit capacity : Nat} {wait : BacklogWait} {a b c d : Nat} {g : Gate}

/-- The gate at the start of the clock. -/
theorem ofLimits (limit capacity : Nat) (wait : BacklogWait) :
    Arrayed limit capacity wait 0 0 0 0 (Gate.ofLimits limit capacity wait) :=
  ⟨rfl, rfl, rfl, (World.ofGate_sound limit capacity wait).balanced, rfl, rfl⟩

theorem length_live (h : Arrayed limit capacity wait a b c d g) : g.live.length = b - a := by
  have hall : g.live = g.tickets := by
    refine List.filter_eq_self.mpr fun t ht => ?_
    rw [h.tickets_eq, ticketsOf] at ht
    obtain ⟨i, -, rfl⟩ := List.mem_map.mp ht
    rfl
  rw [hall, h.tickets_eq, ticketsOf, List.length_map, List.Ico.length]

theorem length_waiters (h : Arrayed limit capacity wait a b c d g) : g.waiters.length = d - c := by
  rw [h.waiters_eq, lineUp, List.length_map, List.Ico.length]

theorem length_promised (h : Arrayed limit capacity wait a b c d g) :
    g.promised.length = min d (c + limit - (b - a)) - c := by
  have hcomp : (fun w : Waiter => w.handed) ∘
      (fun i : Nat => (⟨i, .zero, decide (i < c + limit - (b - a))⟩ : Waiter))
      = fun i => decide (i < c + limit - (b - a)) := rfl
  rw [promised, h.waiters_eq, lineUp, List.filter_map, List.length_map, hcomp, List.Ico.filter_lt,
    List.Ico.length]

theorem run_sum (h : Arrayed limit capacity wait a b c d g) :
    g.freeRun + (b - a) + (min d (c + limit - (b - a)) - c) = limit := by
  have := h.balanced.run_sum
  rw [h.length_live, h.length_promised, h.limit_eq] at this
  omega

theorem backlog_sum (h : Arrayed limit capacity wait a b c d g) :
    g.freeBacklog + (b - a) + (d - c) = capacity := by
  have := h.balanced.backlog_sum
  rw [h.length_live, h.length_waiters, h.capacity_eq] at this
  omega

/-- Ranges without requests are as good as each other. -/
theorem shift (h : Arrayed limit capacity wait a b c d g) {a' b' c' d' : Nat}
    (ht : (a' = a ∧ b' = b) ∨ (b ≤ a ∧ b' ≤ a')) (hw : (c' = c ∧ d' = d) ∨ (d ≤ c ∧ d' ≤ c')) :
    Arrayed limit capacity wait a' b' c' d' g := by
  have hlen : b' - a' = b - a := by omega
  refine ⟨h.limit_eq, h.capacity_eq, h.wait_eq, h.balanced, ?_, ?_⟩
  · rcases ht with ⟨rfl, rfl⟩ | ⟨h1, h2⟩
    · exact h.tickets_eq
    · rw [h.tickets_eq, ticketsOf, ticketsOf, List.Ico.eq_nil_of_le h1, List.Ico.eq_nil_of_le h2]
  · rw [hlen]
    rcases hw with ⟨rfl, rfl⟩ | ⟨h1, h2⟩
    · exact h.waiters_eq
    · rw [h.waiters_eq, lineUp_eq_nil h1, lineUp_eq_nil h2]

/-- A parked request has a run permit iff the tickets and those before it leave one. -/
theorem waiter? (h : Arrayed limit capacity wait a b c d g) {i : Nat} (hc : c ≤ i) (hd : i < d) :
    g.waiter? i = some ⟨i, .zero, decide (b - a + (i - c) < limit)⟩ := by
  have hle := h.run_sum
  have hmem : (⟨i, .zero, decide (b - a + (i - c) < limit)⟩ : Waiter) ∈ g.waiters := by
    rw [h.waiters_eq, mem_lineUp]
    refine ⟨i, hc, hd, ?_⟩
    rw [decide_eq_decide.mpr (show b - a + (i - c) < limit ↔ i < c + limit - (b - a) from by omega)]
  exact find?_of_mem Waiter.id h.balanced.waiters_nodup hmem

theorem notMem_ids (h : Arrayed limit capacity wait a b c d g) {i : Nat} (hb : b ≤ i)
    (hd : d ≤ i) : i ∉ g.ids := by
  rw [Gate.ids, h.tickets_eq, h.waiters_eq, map_id_ticketsOf, map_id_lineUp, List.mem_append,
    List.Ico.mem, List.Ico.mem]
  omega

/-! ## §3. What an operation moves. -/

theorem recordRejected (h : Arrayed limit capacity wait a b c d g) (reason : Reason) :
    Arrayed limit capacity wait a b c d (g.recordRejected reason) :=
  ⟨h.limit_eq, h.capacity_eq, h.wait_eq, h.balanced.recordRejected reason, h.tickets_eq,
    h.waiters_eq⟩

/-- **THE FIRST IN LINE LEAVES.** -/
theorem leave (h : Arrayed limit capacity wait a b c d g) (hd : c < d) {w : Waiter}
    (hw : g.waiter? c = some w) (reason : Reason) :
    Arrayed limit capacity wait a b (c + 1) d (g.leave w reason) := by
  have hid := id_of_waiter? hw
  subst hid
  have hf := Follows.leave g w reason
  have hsum := h.run_sum
  have hmark : w.id + 1 + limit - (b - a) = w.id + limit - (b - a) + 1 := by omega
  have hun : (g.unpark w.id).waiters = lineUp (w.id + 1) d (w.id + limit - (b - a)) := by
    show g.waiters.filter _ = _
    rw [h.waiters_eq, filter_ne_lineUp hd]
  refine ⟨hf.limit.trans h.limit_eq, hf.capacity.trans h.capacity_eq, hf.wait.trans h.wait_eq,
    h.balanced.leave hw reason, ?_, ?_⟩
  · rw [← h.tickets_eq]
    unfold Gate.leave
    cases w.handed with
    | true => exact tickets_returnRun _
    | false => rfl
  · rw [hmark]
    have hhanded : w.handed = decide (b - a + (w.id - w.id) < limit) := by
      rw [h.waiter? (Nat.le_refl _) hd] at hw
      exact congrArg Waiter.handed (Option.some.inj hw).symm
    unfold Gate.leave
    cases hh : w.handed with
    | true =>
        -- its run permit goes on to the next in line
        rw [hh, eq_comm, decide_eq_true_eq] at hhanded
        show (g.unpark w.id).returnRun.waiters = _
        rw [waiters_returnRun, hun]
        exact handFirst_lineUp _ _ _ _ rfl (by omega)
    | false =>
        -- nobody in line has a run permit, so the mark may move with the line
        rw [hh, eq_comm, decide_eq_false_iff_not] at hhanded
        show (g.unpark w.id).waiters = _
        rw [hun]
        exact lineUp_congr fun i hi _ => by omega

/-- **THE OLDEST TICKET IS DROPPED.** -/
theorem discard (h : Arrayed limit capacity wait a b c d g) (hb : a < b) :
    Arrayed limit capacity wait (a + 1) b c d (g.discard a) := by
  have hsum := h.run_sum
  have hf := Follows.discard h.balanced a
  have hmem : (⟨a, true, true⟩ : Ticket) ∈ g.tickets := by
    rw [h.tickets_eq, ticketsOf, List.mem_map]
    exact ⟨a, List.Ico.mem.mpr ⟨Nat.le_refl _, hb⟩, rfl⟩
  have ht : g.ticket? a = some ⟨a, true, true⟩ :=
    find?_of_mem Ticket.id h.balanced.tickets_nodup hmem
  have hrel : g.release a = (g.spend a).returnRun.returnBacklog :=
    release_eq (t := ⟨a, true, true⟩) ht rfl
  have hmark : c + limit - (b - (a + 1)) = c + limit - (b - a) + 1 := by omega
  refine ⟨hf.limit.trans h.limit_eq, hf.capacity.trans h.capacity_eq, hf.wait.trans h.wait_eq,
    h.balanced.discard a, ?_, ?_⟩
  · rw [← filter_ne_ticketsOf hb, ← h.tickets_eq, discard_eq, hrel]
    show ((g.spend a).returnRun.tickets).filter _ = _
    rw [tickets_returnRun]
    exact filter_ne_map_ite Ticket.id spent (fun _ => rfl) g.tickets a
  · -- the run permit of the ticket goes to the request at the mark
    rw [hmark, discard_eq, hrel]
    show (g.spend a).returnRun.waiters = _
    rw [waiters_returnRun]
    show (handFirst g.waiters).getD g.waiters = _
    rw [h.waiters_eq]
    exact handFirst_lineUp _ _ _ _ rfl (by omega)

/-- The first in line takes up the run permit that it has. -/
theorem resume_admitted (h : Arrayed limit capacity wait a c c d g) (hd : c < d)
    (hlt : c - a < limit) (ha : a ≤ c) (now : Duration) :
    ∃ g', g.resume c now false = (g', .admitted)
      ∧ Arrayed limit capacity wait a (c + 1) (c + 1) d g' := by
  have hw := h.waiter? (Nat.le_refl c) hd
  have hhanded : decide (c - a + (c - c) < limit) = true := decide_eq_true (by omega)
  rw [hhanded] at hw
  refine ⟨(g.unpark c).issue c, ?_, ?_⟩
  · simp only [resume, hw, Bool.false_eq_true, if_false, if_true]
  · have hb := h.balanced.resume hw now false
    simp only [resume, hw, Bool.false_eq_true, if_false, if_true] at hb
    refine ⟨h.limit_eq, h.capacity_eq, h.wait_eq, hb, ?_, ?_⟩
    · show g.tickets ++ [⟨c, true, true⟩] = _
      rw [h.tickets_eq, ticketsOf, ticketsOf, List.Ico.succ_top ha, List.map_append]
      rfl
    · show g.waiters.filter _ = _
      rw [h.waiters_eq, filter_ne_lineUp hd,
        show c + 1 + limit - (c + 1 - a) = c + limit - (c - a) from by omega]

/-- The first in line has no run permit, and its time is up. -/
theorem resume_expired (h : Arrayed limit capacity wait a b c d g) (hd : c < d)
    (hb : b - a = limit) {now : Duration} (he : wait.expired .zero now = true) :
    ∃ g', g.resume c now false = (g', .rejected (.timeout false))
      ∧ Arrayed limit capacity wait a b (c + 1) d g' := by
  have hw := h.waiter? (Nat.le_refl c) hd
  have hhanded : decide (b - a + (c - c) < limit) = false := decide_eq_false (by omega)
  rw [hhanded] at hw
  rw [← h.wait_eq] at he
  refine ⟨g.leave ⟨c, .zero, false⟩ (.timeout false), ?_, h.leave hd hw _⟩
  simp only [resume, hw, he, Bool.false_eq_true, if_false, if_true]

/-- Somebody in line has no run permit, and time is left. -/
theorem resume_parked (h : Arrayed limit capacity wait a b c d g) {i : Nat} (hc : c ≤ i)
    (hd : i < d) (hb : limit ≤ b - a) {now : Duration} (he : wait.expired .zero now = false) :
    g.resume i now false = (g, .parked) := by
  have hw := h.waiter? hc hd
  have hhanded : decide (b - a + (i - c) < limit) = false := decide_eq_false (by omega)
  rw [hhanded] at hw
  rw [← h.wait_eq] at he
  simp only [resume, hw, he, Bool.false_eq_true, if_false]

theorem abandon (h : Arrayed limit capacity wait a b c d g) (hd : c < d) :
    Arrayed limit capacity wait a b (c + 1) d (g.abandon c) := by
  have hw := h.waiter? (Nat.le_refl c) hd
  rw [show g.abandon c = _ from abandon_of_some (w := ⟨c, _, _⟩) hw]
  exact h.leave hd hw _

/-- A new request finds a run permit. -/
theorem enter_admitted (h : Arrayed limit capacity wait a c c c g) (ha : a ≤ c)
    (hlt : c - a < limit) (hcap : limit ≤ capacity) (now : Duration) :
    ∃ g', g.enter c now false = (g', .admitted)
      ∧ Arrayed limit capacity wait a (c + 1) (c + 1) (c + 1) g' := by
  have hrun := h.run_sum
  have hback := h.backlog_sum
  have hid := h.notMem_ids (i := c) (Nat.le_refl _) (Nat.le_refl _)
  have hb := h.balanced.enter hid now false
  have henter : g.enter c now false = (g.takeBacklog.takeRun.issue c, .admitted) := by
    simp only [enter, Bool.false_eq_true, if_false]
    rw [if_neg (by omega), if_pos (show 0 < g.freeRun from by omega)]
    rfl
  rw [henter] at hb
  refine ⟨_, henter, h.limit_eq, h.capacity_eq, h.wait_eq, hb, ?_, ?_⟩
  · show g.tickets ++ [⟨c, true, true⟩] = _
    rw [h.tickets_eq, ticketsOf, ticketsOf, List.Ico.succ_top ha, List.map_append]
    rfl
  · show g.waiters = _
    rw [h.waiters_eq, lineUp_eq_nil (Nat.le_refl _), lineUp_eq_nil (Nat.le_refl _)]

/-- A new request finds a place at the end of the line. -/
theorem enter_parked (h : Arrayed limit capacity wait a b c d g) (hbd : b ≤ d) (hcd : c ≤ d)
    (hb : b - a = limit) (hcap : limit + (d - c) < capacity) {now : Duration}
    (hnow : now = .zero) (he : wait.expired .zero .zero = false) :
    ∃ g', g.enter d now false = (g', .parked)
      ∧ Arrayed limit capacity wait a b c (d + 1) g' := by
  subst hnow
  have hrun := h.run_sum
  have hback := h.backlog_sum
  have hid := h.notMem_ids hbd (Nat.le_refl d)
  have hpark : (g.takeBacklog.park d .zero).waiter? d = some ⟨d, .zero, false⟩ :=
    waiter?_park (g := g.takeBacklog) (fun hm => hid (List.mem_append_right _ hm)) .zero
  have hexp : (g.takeBacklog.park d .zero).wait.expired .zero .zero = false := by
    rw [← he, ← h.wait_eq]
    rfl
  have henter : g.enter d .zero false = (g.takeBacklog.park d .zero, .parked) := by
    simp only [enter, Bool.false_eq_true, if_false]
    rw [if_neg (by omega), if_neg (show ¬ 0 < g.freeRun from by omega)]
    show (g.takeBacklog.park d .zero).resume d .zero false = _
    simp only [resume, hpark, hexp, Bool.false_eq_true, if_false]
  have hbal := h.balanced.enter hid .zero false
  rw [henter] at hbal
  refine ⟨_, henter, h.limit_eq, h.capacity_eq, h.wait_eq, hbal, h.tickets_eq, ?_⟩
  show g.waiters ++ [⟨d, .zero, false⟩] = _
  rw [h.waiters_eq, lineUp, lineUp, List.Ico.succ_top hcd, List.map_append, List.map_singleton,
    decide_eq_false (show ¬ d < c + limit - (b - a) from by omega)]

/-- No backlog permit is left. -/
theorem enter_full (h : Arrayed limit capacity wait a b c d g)
    (hcap : capacity ≤ b - a + (d - c)) (i : Nat) (now : Duration) :
    g.enter i now false = (g.recordRejected .capacity, .rejected .capacity) := by
  have hback := h.backlog_sum
  simp only [enter, Bool.false_eq_true, if_false]
  rw [if_pos (by omega)]

/-! ## §4. What an observer sees. -/

/-- Without tickets and parked requests, nothing is in flight and nothing waits. -/
theorem snapshot_of_empty (h : Arrayed limit capacity wait a b c d g) (hb : b ≤ a) (hd : d ≤ c) :
    g.snapshot.inFlight = 0 ∧ g.snapshot.waiting = 0 := by
  have hrun := h.run_sum
  have hback := h.backlog_sum
  have hflight : g.inFlight = 0 := by
    rw [inFlight, h.limit_eq]
    omega
  have hpending : g.pending = 0 := by
    rw [pending, h.capacity_eq]
    omega
  refine ⟨?_, ?_⟩
  · show UInt64.ofNat g.inFlight = 0
    rw [hflight]
    rfl
  · show UInt64.ofNat g.waiting = 0
    rw [waiting, hpending, hflight]
    rfl

end Arrayed

end Admission.Gate

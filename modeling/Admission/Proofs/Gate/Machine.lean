/-
  Admission.Proofs.Gate.Machine — the specification's atomic machine, and a gate's view as one.

  The specification knows two things only: WHO RUNS, a set of requests that never exceeds the limit,
  and WHO WAITS, a first-in-first-out queue.  A request asks once, and is turned away, runs at once,
  or joins the queue; a request that leaves frees its slot for the head of the queue.  The gate keeps
  two counts of permits instead, and hands a run permit to a parked request before that one is
  polled.  Its view as a machine counts such a request among those who run.

  Main results: `Balanced.freeRun_pos_iff`, `Balanced.freeBacklog_eq_zero_iff` — what the pools say
  about the view; `machine_returnRun`, `Balanced.machine_leave`, `Balanced.machine_release`,
  `Balanced.machine_takeUp` — each move of a permit, seen from the machine.
-/
import Mathlib.Data.Finset.Card
import Admission.Proofs.Gate.World

namespace Admission.Gate

/-! ## §1. The machine. -/

/-- The specification's machine. -/
structure Machine where
  running : Finset Nat
  /-- Longest wait first. -/
  queue : List Nat

namespace Machine

/-- How many run or wait. -/
def size (m : Machine) : Nat := m.running.card + m.queue.length

/-- A free slot goes to the head of the queue. -/
def promote (m : Machine) : Machine :=
  match m.queue with
  | [] => m
  | i :: rest => ⟨insert i m.running, rest⟩

/-- A request asks for admission. -/
def ask (limit capacity : Nat) (m : Machine) (id : Nat) (patient : Bool) : Machine :=
  if m.size = capacity then m
  else if m.running.card < limit then ⟨insert id m.running, m.queue⟩
  else if patient then ⟨m.running, m.queue ++ [id]⟩
  else m

/-- A request leaves, wherever it is. -/
def leave (m : Machine) (id : Nat) : Machine :=
  if id ∈ m.running then promote ⟨m.running.erase id, m.queue⟩
  else ⟨m.running, m.queue.filter (· != id)⟩

/-- What can happen to the machine. -/
inductive Event where
  | ask (id : Nat) (patient : Bool)
  | leave (id : Nat)
  | idle

def step (limit capacity : Nat) (m : Machine) : Event → Machine
  | .ask id patient => m.ask limit capacity id patient
  | .leave id => m.leave id
  | .idle => m

end Machine

/-- The gate seen as a machine: a parked request that was handed a run permit runs. -/
def machine (g : Gate) : Machine :=
  ⟨(g.live.map (·.id) ++ g.promised.map (·.id)).toFinset, g.line.map (·.id)⟩

theorem mem_running {g : Gate} {i : Nat} :
    i ∈ g.machine.running ↔ (∃ t ∈ g.live, t.id = i) ∨ ∃ w ∈ g.promised, w.id = i := by
  simp [machine]

/-! ## §2. Counting. -/

theorem Balanced.card_running {g : Gate} {r b : Nat} (h : Balanced g r b) :
    g.machine.running.card = g.live.length + g.promised.length := by
  have hsub : (g.live.map (·.id) ++ g.promised.map (·.id)).Sublist g.ids :=
    (List.filter_sublist.map _).append (List.filter_sublist.map _)
  show (List.toFinset _).card = _
  rw [List.toFinset_card_of_nodup (h.nodup.sublist hsub)]
  simp

theorem Balanced.size_machine {g : Gate} {r b : Nat} (h : Balanced g r b) :
    g.machine.size = g.live.length + g.waiters.length := by
  have hl : g.machine.queue.length = g.line.length := List.length_map _
  rw [Machine.size, h.card_running, hl, ← length_promised_add_line]
  omega

/-- No run permit is free exactly when as many requests run as may. -/
theorem Balanced.freeRun_pos_iff {g : Gate} (h : Balanced g 0 0) :
    0 < g.freeRun ↔ g.machine.running.card < g.limit := by
  have := h.run_sum
  rw [h.card_running]
  omega

theorem Balanced.freeBacklog_eq_zero_iff {g : Gate} (h : Balanced g 0 0) :
    g.freeBacklog = 0 ↔ g.machine.size = g.capacity := by
  have := h.backlog_sum
  rw [h.size_machine]
  omega

theorem Balanced.size_le {g : Gate} (h : Balanced g 0 0) : g.machine.size ≤ g.capacity := by
  have := h.backlog_sum
  rw [h.size_machine]
  omega

theorem Balanced.card_le {g : Gate} (h : Balanced g 0 0) : g.machine.running.card ≤ g.limit := by
  have := h.run_sum
  rw [h.card_running]
  omega

/-- **A QUEUE MEANS THAT ALL SLOTS ARE TAKEN.** -/
theorem Balanced.card_eq_of_queue {g : Gate} (h : Balanced g 0 0) (hq : g.machine.queue ≠ []) :
    g.machine.running.card = g.limit := by
  -- a run permit that lay idle would mean an empty line
  have hfree : ¬ 0 < g.freeRun := fun hpos => hq (by
    show g.line.map _ = []
    rw [h.saturated hpos]
    rfl)
  rw [h.freeRun_pos_iff] at hfree
  have := h.card_le
  omega

/-! ## §3. Moves of permits. -/

/-- **A RETURNED RUN PERMIT PROMOTES THE HEAD OF THE QUEUE.** -/
theorem machine_returnRun (g : Gate) : g.returnRun.machine = g.machine.promote := by
  have hret := returnRun_runReturn g
  generalize g.returnRun = g' at hret ⊢
  cases hret with
  | toPool hl =>
      have hq : g.machine.queue = [] := by
        show g.line.map _ = []
        rw [hl]
        rfl
      rw [Machine.promote, hq]
      rfl
  | @toFirst pre post w hg hpre hw =>
      -- those before `w` have a run permit each, so `w` is the head of the queue
      have hpre' : pre.filter (fun v => !v.handed) = [] :=
        List.filter_eq_nil_iff.mpr fun v hv => by simp [hpre v hv]
      have hline : g.line = w :: post.filter (fun v => !v.handed) := by
        rw [line, hg, List.filter_append, hpre', List.filter_cons]
        simp [hw]
      have hq : g.machine.queue = w.id :: (post.filter (fun v => !v.handed)).map (·.id) := by
        show g.line.map _ = _
        rw [hline]
        rfl
      rw [Machine.promote, hq]
      show Machine.mk (List.toFinset _) _ = Machine.mk _ _
      congr 1
      · ext i
        simp only [live, promised, machine, hg, List.filter_append, List.filter_cons, hw,
          List.mem_toFinset, Finset.mem_insert, List.map_append, List.mem_append, if_true,
          List.map_cons, List.mem_cons, Bool.false_eq_true, if_false]
        tauto
      · show ((pre ++ { w with handed := true } :: post).filter (fun v => !v.handed)).map _ = _
        rw [List.filter_append, hpre', List.filter_cons]
        simp

/-- Who runs has no place in the queue. -/
theorem Balanced.notMem_queue {g : Gate} {r b : Nat} (h : Balanced g r b) {i : Nat}
    (hi : i ∈ g.machine.running) : i ∉ g.machine.queue := by
  intro hq
  obtain ⟨u, hu, rfl⟩ := List.mem_map.mp hq
  obtain ⟨hu, hline⟩ := List.mem_filter.mp hu
  rcases mem_running.mp hi with ⟨t, ht, he⟩ | ⟨v, hv, he⟩
  · refine h.notMem_tickets (List.mem_map_of_mem hu) ?_
    exact List.mem_map.mpr ⟨t, (List.mem_filter.mp ht).1, he⟩
  · obtain ⟨hv, hprom⟩ := List.mem_filter.mp hv
    rw [List.inj_on_of_nodup_map h.waiters_nodup hv hu he] at hprom
    simp [hprom] at hline

theorem filter_queue_of_notMem {m : Machine} {i : Nat} (h : i ∉ m.queue) :
    m.queue.filter (· != i) = m.queue :=
  List.filter_eq_self.mpr fun j hj => by
    simpa using fun he : j = i => h (he ▸ hj)

/-- A parked request that leaves its place is in neither part of the machine. -/
theorem Balanced.machine_unpark {g : Gate} {r b : Nat} (h : Balanced g r b) {w : Waiter}
    (hw : g.waiter? w.id = some w) :
    (g.unpark w.id).machine
      = ⟨g.machine.running.erase w.id, g.machine.queue.filter (· != w.id)⟩ := by
  -- it has no ticket, so nothing is left of it among those who run
  have hnt := h.notMem_tickets (List.mem_map_of_mem (mem_of_waiter? hw))
  show Machine.mk _ _ = _
  congr 1
  · ext i
    simp only [Gate.unpark, promised, live, machine, List.mem_toFinset, Finset.mem_erase,
      List.mem_append, List.mem_map, List.mem_filter]
    constructor
    · rintro (⟨t, ht, rfl⟩ | ⟨v, ⟨⟨hv, hne⟩, hh⟩, rfl⟩)
      · exact ⟨fun he => hnt (List.mem_map.mpr ⟨t, ht.1, he⟩), .inl ⟨t, ht, rfl⟩⟩
      · exact ⟨by simpa using hne, .inr ⟨v, ⟨hv, hh⟩, rfl⟩⟩
    · rintro ⟨hne, ⟨t, ht, rfl⟩ | ⟨v, ⟨hv, hh⟩, rfl⟩⟩
      · exact .inl ⟨t, ht, rfl⟩
      · exact .inr ⟨v, ⟨⟨hv, by simpa using hne⟩, hh⟩, rfl⟩
  · show ((g.waiters.filter _).filter _).map _ = ((g.waiters.filter _).map _).filter _
    rw [List.filter_map, List.filter_filter, List.filter_filter]
    congr 1
    exact List.filter_congr fun v _ => by simp [Bool.and_comm]

/-- **A PARKED REQUEST THAT LEAVES, LEAVES THE MACHINE.** -/
theorem Balanced.machine_leave {g : Gate} {r b : Nat} (h : Balanced g r b) {w : Waiter}
    (hw : g.waiter? w.id = some w) (reason : Reason) :
    (g.leave w reason).machine = g.machine.leave w.id := by
  have hun := h.machine_unpark hw
  have hmem := mem_of_waiter? hw
  unfold Gate.leave
  cases hh : w.handed with
  | true =>
      have hi : w.id ∈ g.machine.running :=
        mem_running.mpr (.inr ⟨w, List.mem_filter.mpr ⟨hmem, hh⟩, rfl⟩)
      show ((g.unpark w.id).returnRun).machine = _
      rw [machine_returnRun, hun, Machine.leave, if_pos hi,
        filter_queue_of_notMem (h.notMem_queue hi)]
  | false =>
      have hq : w.id ∈ g.machine.queue :=
        List.mem_map_of_mem (List.mem_filter.mpr ⟨hmem, by simp [hh]⟩)
      have hi : w.id ∉ g.machine.running := fun hi => h.notMem_queue hi hq
      show (g.unpark w.id).machine = _
      rw [hun, Machine.leave, if_neg hi, Finset.erase_eq_of_notMem hi]

/-- A ticket that lets go takes its request from those who run. -/
theorem Balanced.machine_spend {g : Gate} {r b : Nat} (h : Balanced g r b) {t : Ticket}
    (ht : g.ticket? t.id = some t) :
    (g.spend t.id).machine = ⟨g.machine.running.erase t.id, g.machine.queue⟩ := by
  have hmem : t.id ∈ g.tickets.map (·.id) := List.mem_map_of_mem (mem_of_ticket? ht)
  show Machine.mk _ _ = Machine.mk _ _
  congr 1
  ext i
  simp only [Gate.spend, promised, live, machine, List.mem_toFinset, Finset.mem_erase,
    List.mem_append, List.mem_map, List.mem_filter]
  constructor
  · rintro (⟨u, ⟨⟨v, hv, rfl⟩, hlive⟩, rfl⟩ | ⟨v, hv, rfl⟩)
    · by_cases he : v.id = t.id
      · simp [he, isReleased_spent] at hlive
      · simp only [beq_iff_eq, he, if_false] at hlive ⊢
        exact ⟨he, .inl ⟨v, ⟨hv, hlive⟩, rfl⟩⟩
    · refine ⟨fun he => ?_, .inr ⟨v, hv, rfl⟩⟩
      exact h.notMem_tickets (List.mem_map_of_mem hv.1) (he ▸ hmem)
  · rintro ⟨hne, ⟨v, hv, rfl⟩ | ⟨v, hv, rfl⟩⟩
    · refine .inl ⟨v, ⟨⟨v, hv.1, ?_⟩, hv.2⟩, rfl⟩
      simp [hne]
    · exact .inr ⟨v, hv, rfl⟩

/-- Whoever has a ticket does not wait. -/
theorem Balanced.notMem_queue_of_ticket {g : Gate} {r b : Nat} (h : Balanced g r b) {t : Ticket}
    (ht : t ∈ g.tickets) : t.id ∉ g.machine.queue := by
  intro hq
  obtain ⟨u, hu, he⟩ := List.mem_map.mp hq
  refine h.notMem_tickets (List.mem_map_of_mem (List.mem_filter.mp hu).1) ?_
  rw [he]
  exact List.mem_map_of_mem ht

/-- **A TICKET THAT IS RELEASED LEAVES THE MACHINE**; one that was released before has left it. -/
theorem Balanced.machine_release {g : Gate} {r b : Nat} (h : Balanced g r b) {t : Ticket}
    (ht : g.ticket? t.id = some t) : (g.release t.id).machine = g.machine.leave t.id := by
  have hmem := mem_of_ticket? ht
  have hp := h.paired t hmem
  have hsp := h.machine_spend ht
  rw [release_eq ht hp]
  -- a ticket without its run permit was released before, and nothing is left to give back
  cases hrun : t.run with
  | true =>
      have hi : t.id ∈ g.machine.running := by
        refine mem_running.mpr (.inl ⟨t, List.mem_filter.mpr ⟨hmem, ?_⟩, rfl⟩)
        simp [isReleased_eq_not_run hp, hrun]
      rw [if_pos rfl, Machine.leave, if_pos hi]
      show (g.spend t.id).returnRun.machine = _
      rw [machine_returnRun, hsp]
  | false =>
      have hi : t.id ∉ g.machine.running := by
        intro hi
        rcases mem_running.mp hi with ⟨u, hu, he⟩ | ⟨v, hv, he⟩
        · obtain ⟨hu, hlive⟩ := List.mem_filter.mp hu
          rw [List.inj_on_of_nodup_map h.tickets_nodup hu hmem he, isReleased_eq_not_run hp,
            hrun] at hlive
          simp at hlive
        · refine h.notMem_tickets (List.mem_map_of_mem (List.mem_filter.mp hv).1) ?_
          exact he ▸ List.mem_map_of_mem hmem
      rw [if_neg Bool.false_ne_true, hsp, Machine.leave, if_neg hi,
        Finset.erase_eq_of_notMem hi, filter_queue_of_notMem (h.notMem_queue_of_ticket hmem)]

/-- A released ticket that goes was no part of the machine. -/
theorem machine_forget {g : Gate} {id : Nat}
    (h : ∀ t ∈ g.tickets, t.id = id → t.isReleased = true) :
    (g.forget id).machine = g.machine := by
  have hlive : (g.forget id).live = g.live := by
    show (g.tickets.filter _).filter _ = g.tickets.filter _
    rw [List.filter_filter]
    refine List.filter_congr fun t ht => ?_
    by_cases he : t.id = id
    · simp [h t ht he]
    · simp [he]
  show Machine.mk _ _ = Machine.mk _ _
  rw [hlive]
  rfl

/-- A parked request that takes up the run permit it was handed ran before. -/
theorem Balanced.machine_takeUp {g : Gate} {r b : Nat} (h : Balanced g r b) {w : Waiter}
    (hw : g.waiter? w.id = some w) (hh : w.handed = true) :
    ((g.unpark w.id).issue w.id).machine = g.machine := by
  have hi : w.id ∈ g.machine.running :=
    mem_running.mpr (.inr ⟨w, List.mem_filter.mpr ⟨mem_of_waiter? hw, hh⟩, rfl⟩)
  have hun := h.machine_unpark hw
  rw [filter_queue_of_notMem (h.notMem_queue hi)] at hun
  have hiss : ((g.unpark w.id).issue w.id).machine
      = ⟨insert w.id (g.unpark w.id).machine.running, (g.unpark w.id).machine.queue⟩ := by
    show Machine.mk _ _ = Machine.mk _ _
    congr 1
    ext i
    simp [Gate.issue, live, promised, machine, Ticket.isReleased, List.filter_append]
  rw [hiss, hun, Finset.insert_erase hi]

end Admission.Gate

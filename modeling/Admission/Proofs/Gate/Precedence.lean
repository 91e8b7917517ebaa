/-
  Admission.Proofs.Gate.Precedence — nobody is served before those who came earlier.

  The LINE is made of the parked calls that have no run permit.  A run permit that comes back goes
  to its head, and a newcomer helps itself to one only while the line is empty.  `LineStep` says all
  that one step can do to the line.  Two invariants follow from it: `Recorded` compares the line
  with the history of the run (whoever was handed a run permit, or took one, came before all who
  still stand in line), and `Orderly` is about the order of the history alone.

  Main results:
    * `Passage.lineStep` — what a step does to the line;
    * `Sound.orderly_run` — both invariants hold after every run;
    * `never_overtaken` — **no overtaking**.
-/
import Mathlib.Data.List.Sort
import Admission.Proofs.Gate.History
import Admission.Proofs.Gate.Refinement

namespace Admission.Gate

/-! ## §1. Histories. -/

/-- The turn ends the wait of a call in line. -/
def Turn.endsWait : Turn → Bool
  | .handed | .rejected _ | .abandoned => true
  | _ => false

/-- The calls that a turn befell, in the order in which it did. -/
def befell (t : Turn) (past : List (Nat × Turn)) : List Nat :=
  (past.filter fun e => e.2 == t).map (·.1)

theorem mem_befell {t : Turn} {past : List (Nat × Turn)} {i : Nat} :
    i ∈ befell t past ↔ (i, t) ∈ past := by
  simp [befell]

theorem befell_append (t : Turn) (past next : List (Nat × Turn)) :
    befell t (past ++ next) = befell t past ++ befell t next := by
  simp [befell]

theorem befell_cons_of_ne {s t : Turn} (h : t ≠ s) (i : Nat) (past : List (Nat × Turn)) :
    befell s ((i, t) :: past) = befell s past := by
  have hne : ¬ (t == s) = true := by simpa using h
  rw [befell, List.filter_cons, if_neg hne, befell]

theorem befell_map_handed (is : List Nat) : befell .handed (is.map (·, .handed)) = is := by
  induction is with
  | nil => rfl
  | cons i is ih => simpa [befell] using ih

theorem befell_map_handed_of_ne {s : Turn} (h : .handed ≠ s) (is : List Nat) :
    befell s (is.map (·, .handed)) = [] := by
  induction is with
  | nil => rfl
  | cons i is ih =>
      rw [List.map_cons, befell_cons_of_ne h]
      exact ih

/-- A refusal is no other turn. -/
theorem ne_of_reason? {t : Turn} {reason : Reason} (h : t.reason? = some reason) :
    t.endsWait = true ∧ t ≠ .entered ∧ t ≠ .handed ∧ t ≠ .admitted := by
  refine ⟨?_, ?_, ?_, ?_⟩
  · cases t <;> simp [Turn.reason?, Turn.endsWait] at h ⊢
  all_goals
    rintro rfl
    cases h

/-! ## §2. Who is handed a run permit. -/

theorem mem_handedOver {g g' : Gate} {i : Nat} :
    i ∈ handedOver g g' ↔ i ∈ g.machine.queue ∧ i ∈ g'.promised.map (·.id) := by
  simp only [handedOver, machine, List.mem_filter, List.any_eq_true, beq_iff_eq, List.mem_map]

/-- Who was handed a run permit is not in line. -/
theorem Balanced.notMem_queue_of_promised {g : Gate} {r b : Nat} (h : Balanced g r b) {i : Nat}
    (hi : i ∈ g.promised.map (·.id)) : i ∉ g.machine.queue := by
  obtain ⟨u, hu, rfl⟩ := List.mem_map.mp hi
  exact h.notMem_queue (mem_running.mpr (.inr ⟨u, hu, rfl⟩))

theorem Balanced.handedOver_eq_nil {g g' : Gate} {r b : Nat} (h : Balanced g r b)
    (hsub : g'.promised.map (·.id) ⊆ g.promised.map (·.id)) : handedOver g g' = [] := by
  refine List.eq_nil_iff_forall_not_mem.mpr fun i hi => ?_
  obtain ⟨hq, hp⟩ := mem_handedOver.mp hi
  exact h.notMem_queue_of_promised (hsub hp) hq

theorem queue_promote (m : Machine) : m.promote.queue = m.queue.tail := by
  unfold Machine.promote
  split
  next hq => rw [hq, List.tail_nil]
  next hq => rw [hq, List.tail_cons]

theorem queue_returnRun (g : Gate) : g.returnRun.machine.queue = g.machine.queue.tail := by
  rw [machine_returnRun, queue_promote]

/-- A run permit that comes back is handed to the head of the line. -/
theorem mem_promised_returnRun {g : Gate} {i : Nat} : i ∈ g.returnRun.promised.map (·.id)
    ↔ i ∈ g.promised.map (·.id) ∨ i ∈ g.machine.queue.take 1 := by
  have hret := returnRun_runReturn g
  generalize g.returnRun = g' at hret ⊢
  cases hret with
  | toPool hl =>
      have hq : g.machine.queue = [] := by
        show g.line.map _ = []
        rw [hl, List.map_nil]
      rw [hq]
      simp [promised]
  | @toFirst pre post w hg hpre hw =>
      -- those before `w` have a run permit each, so `w` is the head of the line
      have hpre' : pre.filter (fun v => !v.handed) = [] :=
        List.filter_eq_nil_iff.mpr fun v hv => by simp [hpre v hv]
      have hq : g.machine.queue.take 1 = [w.id] := by
        show ((g.waiters.filter fun v => !v.handed).map (·.id)).take 1 = _
        rw [hg, List.filter_append, hpre', List.filter_cons]
        simp [hw]
      rw [hq]
      simp only [promised, hg, List.filter_append, List.filter_cons, hw, List.map_append,
        List.mem_append, if_true, List.map_cons, List.mem_cons, List.not_mem_nil, or_false,
        Bool.false_eq_true, if_false]
      tauto

theorem promised_unpark (g : Gate) (id : Nat) :
    (g.unpark id).promised.map (·.id) ⊆ g.promised.map (·.id) := by
  refine List.map_subset _ ?_
  exact (List.filter_sublist.filter _).subset

/-- The run permit that comes back to a gate `g₀` with the same line as `g`. -/
theorem Balanced.handedOver_returnRun {g g₀ : Gate} {r b : Nat} (h : Balanced g r b)
    (hq : g₀.machine.queue = g.machine.queue) (hn : g.machine.queue.Nodup)
    (hsub : g₀.promised.map (·.id) ⊆ g.promised.map (·.id)) :
    handedOver g g₀.returnRun = g.machine.queue.take 1 := by
  have hmem : ∀ i ∈ g.machine.queue, i ∈ g₀.returnRun.promised.map (·.id)
      ↔ i ∈ g.machine.queue.take 1 := by
    intro i hi
    rw [mem_promised_returnRun, hq]
    exact or_iff_right fun hp => h.notMem_queue_of_promised (hsub hp) hi
  have hany : ∀ i, (g₀.returnRun.promised.any (·.id == i)) = true
      ↔ i ∈ g₀.returnRun.promised.map (·.id) := by
    simp
  show g.machine.queue.filter _ = _
  cases hline : g.machine.queue with
  | nil => rfl
  | cons i rest =>
      rw [hline] at hmem hn
      simp only [List.take_succ_cons, List.take_zero] at hmem ⊢
      have hhead := (hany i).mpr ((hmem i (by simp)).mpr (by simp))
      rw [List.filter_cons, if_pos hhead, List.filter_eq_nil_iff.mpr]
      -- nobody behind the head is the head
      intro j hj hp
      have hji := (hmem j (by simp [hj])).mp ((hany j).mp hp)
      rw [List.mem_singleton.mp hji] at hj
      exact (List.nodup_cons.mp hn).1 hj

/-- Whoever has a ticket had one before, or is the one who gets it. -/
theorem mem_tickets_issue {g : Gate} {id i : Nat} (hi : i ∈ (g.issue id).tickets.map (·.id)) :
    i ∈ g.tickets.map (·.id) ∨ (i, Turn.admitted) ∈ [(id, Turn.admitted)] := by
  rw [issue, List.map_append, List.mem_append] at hi
  refine hi.imp_right fun hi => ?_
  rw [List.mem_singleton.mp hi]
  exact List.mem_singleton.mpr rfl

/-- A ticket that is released stays where it is. -/
theorem map_id_tickets_release {g : Gate} {r b : Nat} (h : Balanced g r b) {t : Ticket}
    (ht : g.ticket? t.id = some t) (hl : t.isReleased = false) :
    (g.release t.id).tickets.map (·.id) = g.tickets.map (·.id) := by
  rw [h.release_of_live ht hl]
  show (g.spend t.id).returnRun.tickets.map (·.id) = _
  rw [tickets_returnRun]
  exact map_key_map_ite Ticket.id spent (fun _ => rfl) g.tickets t.id

/-! ## §3. What a step does to the line. -/

/-- **ONE STEP, SEEN FROM THE LINE**: the gate and the number of calls before it, both after it, and
all turns that it brings. -/
structure LineStep (g g' : Gate) (n n' : Nat) (new : List (Nat × Turn)) : Prop where
  /-- At most one call comes, and it does not come unnoticed. -/
  size : n' = n ∨ n' = n + 1 ∧ ∃ t, (n, t) ∈ new
  numbers : ∀ i t, (i, t) ∈ new → i < n'
  /-- Whoever leaves the line has a turn for it. -/
  kept : ∀ i ∈ g.machine.queue,
    i ∈ g'.machine.queue ∨ ∃ t : Turn, t.endsWait = true ∧ (i, t) ∈ new
  /-- Nobody but the newcomer joins the line. -/
  came : ∀ i ∈ g'.machine.queue, i ∈ g.machine.queue ∨ i = n ∧ (i, .entered) ∈ new
  joined : befell .entered new = [] ∨ befell .entered new = [n] ∧ n ∈ g'.machine.queue
  /-- Run permits are handed to the head of the line, which leaves it. -/
  served : befell .handed new = []
    ∨ befell .handed new = g.machine.queue.take 1 ∧ g'.machine.queue = g.machine.queue.tail
  /-- Who gets a ticket was handed its run permit before, or finds the line empty. -/
  admitted : ∀ i, (i, .admitted) ∈ new →
    i ∈ g.promised.map (·.id) ∨ g.machine.queue = [] ∧ g'.machine.queue = []
  /-- Who is parked with a run permit was handed it before, or is now. -/
  promised : ∀ i ∈ g'.promised.map (·.id),
    i ∈ g.promised.map (·.id) ∨ (i, .handed) ∈ new
  /-- Who has a ticket got it before, or gets it now. -/
  issued : ∀ i ∈ g'.tickets.map (·.id), i ∈ g.tickets.map (·.id) ∨ (i, .admitted) ∈ new

namespace LineStep

variable {g g' : Gate} {n n' : Nat}

/-- A step that leaves the line as it is. -/
theorem of_same_line {own : List (Nat × Turn)} (hq : g'.machine.queue = g.machine.queue)
    (hp : g'.promised.map (·.id) ⊆ g.promised.map (·.id))
    (hsize : n' = n ∨ n' = n + 1 ∧ ∃ t, (n, t) ∈ own) (hnum : ∀ i t, (i, t) ∈ own → i < n')
    (hentered : befell .entered own = []) (hhanded : befell .handed own = [])
    (hadmitted : ∀ i, (i, .admitted) ∈ own →
      i ∈ g.promised.map (·.id) ∨ g.machine.queue = [])
    (hissued : ∀ i ∈ g'.tickets.map (·.id),
      i ∈ g.tickets.map (·.id) ∨ (i, .admitted) ∈ own) : LineStep g g' n n' own where
  size := hsize
  numbers := hnum
  kept := fun _ hi => .inl (hq ▸ hi)
  came := fun _ hi => .inl (hq ▸ hi)
  joined := .inl hentered
  served := .inl hhanded
  admitted := fun i hi => (hadmitted i hi).imp_right fun hnil => ⟨hnil, hq.trans hnil⟩
  promised := fun _ hi => .inl (hp hi)
  issued := hissued

/-- A new call joins the line at its end. -/
theorem of_entered (hq : g'.machine.queue = g.machine.queue ++ [n])
    (hp : g'.promised.map (·.id) ⊆ g.promised.map (·.id)) (ht : g'.tickets = g.tickets) :
    LineStep g g' n (n + 1) [(n, .entered)] where
  size := .inr ⟨rfl, .entered, List.mem_singleton.mpr rfl⟩
  numbers := by
    intro i t hi
    cases List.mem_singleton.mp hi
    exact Nat.lt_succ_self n
  kept := fun i hi => .inl (by simp [hq, hi])
  came := by
    intro i hi
    rw [hq] at hi
    rcases List.mem_append.mp hi with hi | hi
    · exact .inl hi
    · cases List.mem_singleton.mp hi
      exact .inr ⟨rfl, List.mem_singleton.mpr rfl⟩
  joined := .inr ⟨rfl, by simp [hq]⟩
  served := .inl rfl
  admitted := by
    intro i hi
    cases List.mem_singleton.mp hi
  promised := fun _ hi => .inl (hp hi)
  issued := fun _ hi => .inl (ht ▸ hi)

/-- A call leaves the line by itself. -/
theorem of_left {i : Nat} (hi : i < n) {t : Turn} {reason : Reason} (ht : t.reason? = some reason)
    (hq : g'.machine.queue = g.machine.queue.filter (· != i))
    (hp : g'.promised.map (·.id) ⊆ g.promised.map (·.id)) (htick : g'.tickets = g.tickets) :
    LineStep g g' n n [(i, t)] := by
  obtain ⟨hends, hentered, hhanded, hadmitted⟩ := ne_of_reason? ht
  -- whoever leaves was in the line, and the others keep their order
  constructor
  case size => exact .inl rfl
  case numbers =>
    intro j s hj
    cases List.mem_singleton.mp hj
    exact hi
  case kept =>
    intro j hj
    by_cases hji : j = i
    · subst hji
      exact .inr ⟨t, hends, List.mem_singleton.mpr rfl⟩
    · exact .inl (hq ▸ List.mem_filter.mpr ⟨hj, by simpa using hji⟩)
  case came => exact fun j hj => .inl (List.mem_filter.mp (hq ▸ hj)).1
  case joined => exact .inl (befell_cons_of_ne hentered i [])
  case served => exact .inl (befell_cons_of_ne hhanded i [])
  case admitted =>
    intro j hj
    cases List.mem_singleton.mp hj
    exact absurd rfl hadmitted
  case promised => exact fun _ hj => .inl (hp hj)
  case issued => exact fun _ hj => .inl (htick ▸ hj)

/-- A call lets go of a run permit, which goes to the head of the line. -/
theorem of_returned {i : Nat} (hi : i < n) {t : Turn} (hentered : t ≠ .entered)
    (hhanded : t ≠ .handed) (hadmitted : t ≠ .admitted) (hbelow : ∀ j ∈ g.machine.queue, j < n)
    (hq : g'.machine.queue = g.machine.queue.tail)
    (hp : ∀ j ∈ g'.promised.map (·.id),
      j ∈ g.promised.map (·.id) ∨ j ∈ g.machine.queue.take 1)
    (htick : g'.tickets.map (·.id) ⊆ g.tickets.map (·.id)) :
    LineStep g g' n n ((i, t) :: (g.machine.queue.take 1).map (·, .handed)) := by
  constructor
  case size => exact .inl rfl
  case numbers =>
    intro j s hj
    rcases List.mem_cons.mp hj with hj | hj
    · cases hj
      exact hi
    · obtain ⟨k, hk, he⟩ := List.mem_map.mp hj
      cases he
      exact hbelow _ (List.mem_of_mem_take hk)
  case kept =>
    -- the head is handed the run permit, and the others stay
    intro j hj
    rw [hq]
    cases hline : g.machine.queue with
    | nil => simp [hline] at hj
    | cons k rest =>
        rw [hline] at hj
        rcases List.mem_cons.mp hj with rfl | hj
        · exact .inr ⟨.handed, rfl, by simp⟩
        · exact .inl hj
  case came => exact fun j hj => .inl (List.mem_of_mem_tail (hq ▸ hj))
  case joined =>
    left
    rw [befell_cons_of_ne hentered]
    exact befell_map_handed_of_ne (by decide) _
  case served =>
    right
    rw [befell_cons_of_ne hhanded]
    exact ⟨befell_map_handed _, hq⟩
  case admitted =>
    intro j hj
    rw [← mem_befell, befell_cons_of_ne hadmitted, befell_map_handed_of_ne (by decide)] at hj
    cases hj
  case promised =>
    intro j hj
    rcases hp j hj with hj | hj
    · exact .inl hj
    · exact .inr (List.mem_cons_of_mem _ (List.mem_map.mpr ⟨j, hj, rfl⟩))
  case issued => exact fun _ hj => .inl (htick hj)

end LineStep

theorem Balanced.queue_nodup {g : Gate} {r b : Nat} (h : Balanced g r b) :
    g.machine.queue.Nodup := h.waiters_nodup.sublist (List.filter_sublist.map _)

theorem queue_subset_ids (g : Gate) : g.machine.queue ⊆ g.ids := by
  intro i hi
  obtain ⟨u, hu, rfl⟩ := List.mem_map.mp hi
  exact List.mem_append_right _ (List.mem_map_of_mem (List.mem_filter.mp hu).1)

/-- A step to `g'` that gives a run permit back to a gate `g₀` with the same line as `g`. -/
theorem Balanced.lineStep_of_returned {g : Gate} (h : Balanced g 0 0) {n : Nat}
    (hbelow : ∀ i ∈ g.ids, i < n) (g₀ : Gate) {g' : Gate} {i : Nat} {t : Turn} (hi : i < n)
    (hentered : t ≠ .entered) (hhanded : t ≠ .handed) (hadmitted : t ≠ .admitted)
    (hq : g₀.machine.queue = g.machine.queue)
    (hsub : g₀.promised.map (·.id) ⊆ g.promised.map (·.id))
    (hq' : g'.machine.queue = g₀.returnRun.machine.queue)
    (hp' : g'.promised = g₀.returnRun.promised)
    (htick : g'.tickets.map (·.id) ⊆ g.tickets.map (·.id)) :
    LineStep g g' n n ([(i, t)] ++ (handedOver g g').map (·, .handed)) := by
  have hover : handedOver g g' = g.machine.queue.take 1 := by
    rw [← h.handedOver_returnRun hq h.queue_nodup hsub, handedOver, handedOver, hp']
  rw [hover]
  refine .of_returned hi hentered hhanded hadmitted
    (fun j hj => hbelow j (queue_subset_ids g hj)) ?_ (fun j hj => ?_) htick
  · rw [hq', queue_returnRun, hq]
  · rw [hp', mem_promised_returnRun, hq] at hj
    exact hj.imp_left fun hj => hsub hj

/-- A parked call is turned away or dropped: a run permit that it was handed goes on. -/
theorem Balanced.lineStep_leave {g : Gate} (h : Balanced g 0 0) {n : Nat}
    (hbelow : ∀ i ∈ g.ids, i < n) {u : Waiter} (hu : g.waiter? u.id = some u) {t : Turn}
    {reason : Reason} (ht : t.reason? = some reason) :
    LineStep g (g.leave u reason) n n
      ([(u.id, t)] ++ (handedOver g (g.leave u reason)).map (·, .handed)) := by
  have hmem := mem_of_waiter? hu
  have hid : u.id < n := hbelow u.id (List.mem_append_right _ (List.mem_map_of_mem hmem))
  have hsub := promised_unpark g u.id
  have htick := tickets_leave g u reason
  have hun := congrArg Machine.queue (h.machine_unpark hu)
  obtain ⟨-, hentered, hhanded, hadmitted⟩ := ne_of_reason? ht
  cases hh : u.handed with
  | false =>
      have hleave : g.leave u reason = ((g.unpark u.id).returnBacklog).recordRejected reason := by
        simp only [Gate.leave, hh, Bool.false_eq_true, if_false]
      rw [hleave] at htick ⊢
      have hnobody : handedOver g ((g.unpark u.id).returnBacklog.recordRejected reason) = [] :=
        h.handedOver_eq_nil hsub
      rw [hnobody, List.map_nil, List.append_nil]
      exact .of_left hid ht hun hsub htick
  | true =>
      -- nobody else has left the line before its run permit goes on
      have hrun : u.id ∈ g.machine.running :=
        mem_running.mpr (.inr ⟨u, List.mem_filter.mpr ⟨hmem, hh⟩, rfl⟩)
      rw [filter_queue_of_notMem (h.notMem_queue hrun)] at hun
      have hleave : g.leave u reason
          = ((g.unpark u.id).returnRun.returnBacklog).recordRejected reason := by
        simp only [Gate.leave, hh, if_true]
      rw [hleave] at htick ⊢
      exact h.lineStep_of_returned hbelow (g.unpark u.id) hid hentered hhanded hadmitted hun hsub
        rfl rfl (htick ▸ List.Subset.refl _)

/-- **WHAT ONE STEP DOES TO THE LINE.** -/
theorem Passage.lineStep {g g' : Gate} {n n' : Nat} {own : List (Nat × Turn)}
    (hb : Balanced g 0 0) (hbelow : ∀ i ∈ g.ids, i < n) (hp : Passage g n g' n' own) :
    LineStep g g' n n' (own ++ (handedOver g g').map (·, .handed)) := by
  -- a step that hands nobody a run permit
  have hnobody : g'.promised.map (·.id) ⊆ g.promised.map (·.id) →
      own ++ (handedOver g g').map (·, .handed) = own := by
    intro hsub
    rw [hb.handedOver_eq_nil hsub, List.map_nil, List.append_nil]
  cases hp with
  | refused reason =>
      have hsame := List.Subset.refl (g.promised.map (·.id))
      rw [hnobody hsame]
      refine .of_same_line rfl hsame (.inr ⟨rfl, _, List.mem_singleton.mpr rfl⟩) ?_ rfl rfl ?_
        fun _ hi => .inl hi
      · intro i t hi
        cases List.mem_singleton.mp hi
        exact Nat.lt_succ_self n
      · intro i hi
        cases List.mem_singleton.mp hi
  | admitted _ hr =>
      have hsame := List.Subset.refl (g.promised.map (·.id))
      have hempty : g.machine.queue = [] := by
        show g.line.map _ = []
        rw [hb.saturated hr, List.map_nil]
      rw [hnobody hsame]
      refine .of_same_line rfl hsame (.inr ⟨rfl, _, List.mem_singleton.mpr rfl⟩) ?_ rfl rfl
        (fun _ _ => .inr hempty) fun _ hi => mem_tickets_issue hi
      intro i t hi
      cases List.mem_singleton.mp hi
      exact Nat.lt_succ_self n
  | entered _ _ now =>
      have hsame : (g.takeBacklog.park n now).promised = g.promised := by
        simp [park, promised, takeBacklog, List.filter_append]
      have hq : (g.takeBacklog.park n now).machine.queue = g.machine.queue ++ [n] := by
        rw [machine_park]
        rfl
      rw [hnobody (hsame ▸ List.Subset.refl _)]
      exact .of_entered hq (hsame ▸ List.Subset.refl _) rfl
  | @tookUp u hu hh =>
      have hsub : (g.unpark u.id).promised.map (·.id) ⊆ g.promised.map (·.id) :=
        promised_unpark g u.id
      have hmem := mem_of_waiter? hu
      rw [hnobody hsub]
      refine .of_same_line (congrArg Machine.queue (hb.machine_takeUp hu hh)) hsub (.inl rfl) ?_
        rfl rfl ?_ fun _ hi => mem_tickets_issue hi
      · intro i t hi
        cases List.mem_singleton.mp hi
        exact hbelow u.id (List.mem_append_right _ (List.mem_map_of_mem hmem))
      · intro i hi
        cases List.mem_singleton.mp hi
        exact .inl (List.mem_map_of_mem (List.mem_filter.mpr ⟨hmem, hh⟩))
  | left hu ht => exact hb.lineStep_leave hbelow hu ht
  | @released t ht hl =>
      have hid : t.id < n :=
        hbelow t.id (List.mem_append_left _ (List.mem_map_of_mem (mem_of_ticket? ht)))
      have htick := map_id_tickets_release hb ht hl
      rw [hb.release_of_live ht hl] at htick ⊢
      exact hb.lineStep_of_returned hbelow (g.spend t.id) hid (by decide) (by decide) (by decide)
        rfl (List.Subset.refl _) rfl rfl (htick ▸ List.Subset.refl _)
  | @discarded t ht hl =>
      have hid : t.id < n :=
        hbelow t.id (List.mem_append_left _ (List.mem_map_of_mem (mem_of_ticket? ht)))
      have htick : (g.discard t.id).tickets.map (·.id) ⊆ g.tickets.map (·.id) := by
        rw [← map_id_tickets_release hb ht hl]
        exact List.map_subset _ List.filter_sublist.subset
      rw [discard_eq, hb.release_of_live ht hl] at htick ⊢
      exact hb.lineStep_of_returned hbelow (g.spend t.id) hid (by decide) (by decide) (by decide)
        rfl (List.Subset.refl _) rfl rfl htick
  | forgotten =>
      have hsame := List.Subset.refl (g.promised.map (·.id))
      rw [hnobody hsame]
      refine .of_same_line rfl hsame (.inl rfl) (by simp) rfl rfl (by simp) fun i hi => .inl ?_
      exact List.map_subset _ List.filter_sublist.subset hi
  | idle =>
      have hsame := List.Subset.refl (g.promised.map (·.id))
      rw [hnobody hsame]
      exact .of_same_line rfl hsame (.inl rfl) (by simp) rfl rfl (by simp) fun _ hi => .inl hi

/-! ## §4. The line against the history. -/

/-- **WHAT A HISTORY TELLS OF THE LINE**: the gate `g` after the turns `past` of `n` calls. -/
structure Recorded (g : Gate) (n : Nat) (past : List (Nat × Turn)) : Prop where
  numbers : ∀ i t, (i, t) ∈ past → i < n
  mentioned : ∀ i < n, ∃ t, (i, t) ∈ past
  entered : ∀ i ∈ g.machine.queue, (i, .entered) ∈ past
  promised : ∀ i ∈ g.promised.map (·.id), (i, .handed) ∈ past
  issued : ∀ i ∈ g.tickets.map (·.id), (i, .admitted) ∈ past
  /-- Whoever was parked stands in line until it has a turn for leaving it. -/
  stands : ∀ i, (i, .entered) ∈ past →
    i ∈ g.machine.queue ∨ ∃ t : Turn, t.endsWait = true ∧ (i, t) ∈ past
  /-- Whoever was handed a run permit, or took one, came before all who stand in line. -/
  ahead : ∀ i, (i, .handed) ∈ past ∨ (i, .admitted) ∈ past → ∀ j ∈ g.machine.queue, i < j

section Step

variable {g g' : Gate} {n n' : Nat} {past new : List (Nat × Turn)}

theorem LineStep.le (h : LineStep g g' n n' new) : n ≤ n' ∧ n' ≤ n + 1 := by
  rcases h.size with h | ⟨h, -⟩ <;> omega

/-- Nobody but the newcomer is parked. -/
theorem LineStep.eq_of_entered (h : LineStep g g' n n' new) {i : Nat}
    (hi : (i, .entered) ∈ new) : i = n ∧ n ∈ g'.machine.queue := by
  rw [← mem_befell] at hi
  rcases h.joined with hnil | ⟨hn, hmem⟩
  · rw [hnil] at hi
    cases hi
  · rw [hn] at hi
    exact ⟨List.mem_singleton.mp hi, hmem⟩

/-- Nobody but the head of the line is handed a run permit. -/
theorem LineStep.head_of_handed (h : LineStep g g' n n' new) {i : Nat}
    (hi : (i, .handed) ∈ new) : ∃ rest, g.machine.queue = i :: rest ∧ g'.machine.queue = rest := by
  rw [← mem_befell] at hi
  rcases h.served with hnil | ⟨htake, htail⟩
  · rw [hnil] at hi
    cases hi
  · rw [htake] at hi
    cases hq : g.machine.queue with
    | nil =>
        rw [hq] at hi
        cases hi
    | cons j rest =>
        rw [hq] at hi htail
        rw [List.mem_singleton.mp hi]
        exact ⟨rest, rfl, htail⟩

theorem Recorded.step (h : Recorded g n past) (hsorted : g.machine.queue.Pairwise (· < ·))
    (hs : LineStep g g' n n' new) : Recorded g' n' (past ++ new) := by
  have hle := hs.le
  constructor
  case numbers =>
    intro i t hi
    rcases List.mem_append.mp hi with hi | hi
    · have := h.numbers i t hi
      omega
    · exact hs.numbers i t hi
  case mentioned =>
    intro i hi
    by_cases hin : i < n
    · obtain ⟨t, ht⟩ := h.mentioned i hin
      exact ⟨t, List.mem_append_left _ ht⟩
    · rcases hs.size with hn | ⟨hn, t, ht⟩
      · omega
      · rw [show i = n by omega]
        exact ⟨t, List.mem_append_right _ ht⟩
  case entered =>
    intro i hi
    rcases hs.came i hi with hi | ⟨rfl, hi⟩
    · exact List.mem_append_left _ (h.entered i hi)
    · exact List.mem_append_right _ hi
  case promised =>
    intro i hi
    exact List.mem_append.mpr ((hs.promised i hi).imp_left (h.promised i))
  case issued =>
    intro i hi
    exact List.mem_append.mpr ((hs.issued i hi).imp_left (h.issued i))
  case stands =>
    intro i hi
    rcases List.mem_append.mp hi with hi | hi
    · rcases h.stands i hi with hq | ⟨t, ht, hmem⟩
      · refine (hs.kept i hq).imp_right ?_
        rintro ⟨t, ht, hmem⟩
        exact ⟨t, ht, List.mem_append_right _ hmem⟩
      · exact .inr ⟨t, ht, List.mem_append_left _ hmem⟩
    · obtain ⟨rfl, hq⟩ := hs.eq_of_entered hi
      exact .inl hq
  case ahead =>
    intro i hi j hj
    -- whoever had its run permit before the step came before all who stand in line after it
    have hbefore : (i, .handed) ∈ past ∨ (i, .admitted) ∈ past → i < j := by
      intro hi
      rcases hs.came j hj with hj | ⟨rfl, -⟩
      · exact h.ahead i hi j hj
      · exact hi.elim (h.numbers i _) (h.numbers i _)
    rw [List.mem_append, List.mem_append] at hi
    rcases hi with (hi | hi) | (hi | hi)
    · exact hbefore (.inl hi)
    · -- the head of the line came before those behind it
      obtain ⟨rest, hq, hq'⟩ := hs.head_of_handed hi
      rw [hq] at hsorted
      rw [hq'] at hj
      exact List.rel_of_pairwise_cons hsorted hj
    · exact hbefore (.inr hi)
    · rcases hs.admitted i hi with hp | ⟨-, hnil⟩
      · exact hbefore (.inl (h.promised i hp))
      · rw [hnil] at hj
        cases hj

/-- An entry of a history that has grown is an old one or a new one. -/
theorem append_eq_split {p s : List (Nat × Turn)} {e : Nat × Turn}
    (h : past ++ new = p ++ e :: s) :
    (∃ s', past = p ++ e :: s') ∨ ∃ a b, p = past ++ a ∧ new = a ++ e :: b := by
  rcases List.append_eq_append_iff.mp h with ⟨a, hp, hnew⟩ | ⟨c, hpast, hs⟩
  · exact .inr ⟨a, s, hp, hnew⟩
  · cases c with
    | nil =>
        rw [List.append_nil] at hpast
        exact .inr ⟨[], s, by rw [hpast, List.append_nil], hs.symm⟩
    | cons d c =>
        rw [List.cons_append, List.cons.injEq] at hs
        exact .inl ⟨c, by rw [hpast, hs.1]⟩

/-- **A HISTORY IN ORDER.** -/
structure Orderly (past : List (Nat × Turn)) : Prop where
  /-- Calls come in the order of their numbers. -/
  first : ∀ {p s : List (Nat × Turn)} {i : Nat} {t : Turn}, past = p ++ (i, t) :: s →
    ∀ j < i, ∃ t', (j, t') ∈ p
  arrivals : (befell .entered past).Pairwise (· < ·)
  services : (befell .handed past).Pairwise (· < ·)
  handed : ∀ i, (i, .handed) ∈ past → (i, .entered) ∈ past
  /-- When a call gets its run permit, nobody who was parked before it stands in line. -/
  served : ∀ {p s : List (Nat × Turn)} {i : Nat} {t : Turn}, past = p ++ (i, t) :: s →
    t = .handed ∨ t = .admitted → ∀ j < i, (j, .entered) ∈ p →
      ∃ t' : Turn, t'.endsWait = true ∧ (j, t') ∈ p

theorem Orderly.step (h : Orderly past) (hr : Recorded g n past)
    (hsorted : g.machine.queue.Pairwise (· < ·)) (hs : LineStep g g' n n' new) :
    Orderly (past ++ new) := by
  have hle := hs.le
  constructor
  case first =>
    intro p s i t hp j hj
    rcases append_eq_split hp with ⟨s', hp⟩ | ⟨a, b, rfl, hnew⟩
    · exact h.first hp j hj
    · have hi := hs.numbers i t (by simp [hnew])
      obtain ⟨t', ht'⟩ := hr.mentioned j (by omega)
      exact ⟨t', List.mem_append_left _ ht'⟩
  case arrivals =>
    rw [befell_append, List.pairwise_append]
    refine ⟨h.arrivals, ?_, ?_⟩
    · rcases hs.joined with hnil | ⟨hn, -⟩
      · simp [hnil]
      · simp [hn]
    · intro i hi j hj
      rw [(hs.eq_of_entered (mem_befell.mp hj)).1]
      exact hr.numbers i _ (mem_befell.mp hi)
  case services =>
    rw [befell_append, List.pairwise_append]
    refine ⟨h.services, ?_, ?_⟩
    · rcases hs.served with hnil | ⟨htake, -⟩
      · simp [hnil]
      · rw [htake]
        exact hsorted.sublist (List.take_sublist 1 _)
    · intro i hi j hj
      obtain ⟨rest, hq, -⟩ := hs.head_of_handed (mem_befell.mp hj)
      exact hr.ahead i (.inl (mem_befell.mp hi)) j (by simp [hq])
  case handed =>
    intro i hi
    rcases List.mem_append.mp hi with hi | hi
    · exact List.mem_append_left _ (h.handed i hi)
    · obtain ⟨rest, hq, -⟩ := hs.head_of_handed hi
      exact List.mem_append_left _ (hr.entered i (by simp [hq]))
  case served =>
    intro p s i t hp ht j hj he
    rcases append_eq_split hp with ⟨s', hp⟩ | ⟨a, b, rfl, hnew⟩
    · exact h.served hp ht j hj he
    · have hmem : (i, t) ∈ new := by simp [hnew]
      have hi := hs.numbers i t hmem
      -- `j` is not the newcomer, so it was parked before the step
      have hpast : (j, .entered) ∈ past := by
        refine (List.mem_append.mp he).resolve_right fun ha => ?_
        have hjn := (hs.eq_of_entered (i := j) (by simp [hnew, ha])).1
        omega
      rcases hr.stands j hpast with hq | ⟨t', ht', hend⟩
      · -- but whoever gets a run permit comes before all in line
        exfalso
        rcases ht with rfl | rfl
        · obtain ⟨rest, hline, -⟩ := hs.head_of_handed hmem
          rw [hline] at hq hsorted
          rcases List.mem_cons.mp hq with rfl | hq
          · omega
          · have := List.rel_of_pairwise_cons hsorted hq
            omega
        · rcases hs.admitted i hmem with hp | ⟨hnil, -⟩
          · have := hr.ahead i (.inl (hr.promised i hp)) j hq
            omega
          · rw [hnil] at hq
            cases hq
      · exact ⟨t', ht', List.mem_append_left _ hend⟩

end Step

namespace World

variable {w : World}

theorem Sorted.queue (h : w.Sorted) : w.gate.machine.queue.Pairwise (· < ·) :=
  h.sublist (List.filter_sublist.map _)

theorem Sound.lineStep (h : w.Sound) (a : Action) :
    LineStep w.gate (w.step a).1.gate w.calls.length (w.step a).1.calls.length (w.turns a) :=
  (h.passage a).lineStep h.balanced h.known

/-- **AFTER EVERY RUN THE LINE AGREES WITH THE HISTORY, WHICH IS IN ORDER.** -/
theorem Sound.orderly_run (h : w.Sound) (hsorted : w.Sorted)
    (hr : Recorded w.gate w.calls.length []) (as : List Action) :
    Recorded (w.run as).gate (w.run as).calls.length (w.history as) ∧ Orderly (w.history as) := by
  have hnil : Orderly [] := by
    refine ⟨fun hp => ?_, List.Pairwise.nil, List.Pairwise.nil, fun _ hi => ?_, fun hp => ?_⟩
    · simp at hp
    · cases hi
    · simp at hp
  have hinv := history_induction
    (fun w past => w.Sorted ∧ Recorded w.gate w.calls.length past ∧ Orderly past)
    (fun {w past} a hs hinv => ?_) h ⟨hsorted, hr, hnil⟩ as
  · exact hinv.2
  · obtain ⟨hsorted, hr, ho⟩ := hinv
    have hstep := hs.lineStep a
    exact ⟨hs.sorted_step hsorted a, hr.step hsorted.queue hstep, ho.step hr hsorted.queue hstep⟩

/-! ## §5. No overtaking. -/

/-- The call `i` was parked before the call `j` came. -/
def CameBefore (past : List (Nat × Turn)) (i j : Nat) : Prop :=
  ∃ p s, past = p ++ (i, .entered) :: s ∧ ∀ t, (j, t) ∉ p

/-- **RUN PERMITS GO TO THE CALLS IN THEIR TURN**, in the world `w` and in the turns `past` that led
to it. -/
structure InTurn (w : World) (past : List (Nat × Turn)) : Prop where
  /-- Nobody is parked, is parked with a run permit or has a ticket without a turn for it. -/
  recorded : (∀ u ∈ w.gate.line, (u.id, .entered) ∈ past)
    ∧ (∀ u ∈ w.gate.promised, (u.id, .handed) ∈ past)
    ∧ ∀ t ∈ w.gate.tickets, (t.id, .admitted) ∈ past
  /-- Run permits are handed out in the order in which the calls were parked. -/
  fifo : (befell .handed past).Sublist (befell .entered past)
  /-- A newcomer gets its ticket at once only while nobody stands in line. -/
  newcomer : ∀ c, (w.step (.arrive c)).2 = some .admitted → w.gate.line = []
  /-- Whenever a call was handed a run permit, or took one, each call that had been parked before it
  came had been handed one, turned away or dropped. -/
  overtaken : ∀ p s j t, past = p ++ (j, t) :: s → t = .handed ∨ t = .admitted →
    ∀ i ≠ j, CameBefore p i j → ∃ t' : Turn, t'.endsWait = true ∧ (i, t') ∈ p

theorem Orderly.lt_of_cameBefore {past p s : List (Nat × Turn)} (h : Orderly past) {i j : Nat}
    {t : Turn} (hp : past = p ++ (j, t) :: s) (hne : i ≠ j) (hij : CameBefore p i j) : i < j := by
  obtain ⟨q, r, rfl, hj⟩ := hij
  by_contra hlt
  rw [List.append_assoc, List.cons_append] at hp
  obtain ⟨t', ht'⟩ := h.first hp j (by omega)
  exact hj t' ht'

theorem Sound.line_of_arrive (h : w.Sound) (c : Context)
    (hc : (w.step (.arrive c)).2 = some .admitted) : w.gate.line = [] := by
  have hw : w.calls.length ∉ w.gate.waiters.map (·.id) :=
    fun hm => h.fresh (List.mem_append_right _ hm)
  have he := enter_entry w.gate hw w.now (c.isDone w.tokens w.now)
  simp only [World.step] at hc
  generalize w.gate.enter w.calls.length w.now (c.isDone w.tokens w.now) = out at he hc
  cases he with
  | admitted _ _ hr => exact h.balanced.saturated hr
  | ended | full | impatient | parked => cases hc

/-- **NO OVERTAKING**, in every world that a run over an accepted gate reaches. -/
theorem never_overtaken (o : Options) (g : Gate) (h : Gate.ofOptions o = .ok g)
    (as : List Action) : InTurn ((ofGate g).run as) ((ofGate g).history as) := by
  obtain ⟨hsound, -⟩ := sound_of_ofOptions h as
  have hg := eq_of_ofOptions h
  subst hg
  have h0 := ofGate_sound o.limit.toNat (o.limit.toNat + o.backlogLimit.toNat) o.wait
  have hempty : Recorded (Gate.ofLimits o.limit.toNat (o.limit.toNat + o.backlogLimit.toNat) o.wait)
      0 [] := by
    refine ⟨?_, ?_, ?_, ?_, ?_, ?_, ?_⟩ <;> simp [machine, line, promised, Gate.ofLimits]
  obtain ⟨hr, ho⟩ := h0.orderly_run List.Pairwise.nil hempty as
  constructor
  case recorded =>
    refine ⟨?_, ?_, ?_⟩
    · intro u hu
      exact hr.entered u.id (List.mem_map_of_mem hu)
    · intro u hu
      exact hr.promised u.id (List.mem_map_of_mem hu)
    · intro t ht
      exact hr.issued t.id (List.mem_map_of_mem ht)
  case fifo =>
    -- both lists ascend, so it is enough that one is contained in the other
    have hsub : befell .handed ((ofGate _).history as) ⊆ befell .entered ((ofGate _).history as) :=
      fun i hi => mem_befell.mpr (ho.handed i (mem_befell.mp hi))
    have hnodup : (befell .handed ((ofGate _).history as)).Nodup :=
      ho.services.imp fun hlt => Nat.ne_of_lt hlt
    exact List.sublist_of_subperm_of_pairwise (List.subperm_of_subset hnodup hsub) ho.services
      ho.arrivals
  case newcomer => exact hsound.line_of_arrive
  case overtaken =>
    intro p s j t hp ht i hne hij
    have hlt := Orderly.lt_of_cameBefore ho hp hne hij
    obtain ⟨q, r, rfl, -⟩ := hij
    exact ho.served hp ht i hlt (by simp)

/-- Three calls wait for one slot.  The second is turned away, the first is handed the slot and
dropped, and the third gets it. -/
theorem never_overtaken_middle_removed :
    let as : List Action :=
      [.arrive ⟨none, ⟨0, []⟩, none⟩, .arrive ⟨none, ⟨1, []⟩, none⟩, .arrive ⟨none, ⟨2, []⟩, none⟩,
        .arrive ⟨none, ⟨3, []⟩, none⟩, .cancel ⟨2, []⟩, .poll 2, .release 0, .abandon 1, .poll 3]
    Gate.ofOptions ((Options.ofLimit 1).withBacklog 3 .unbounded)
        = .ok (Gate.ofLimits 1 4 .unbounded)
      ∧ InTurn ((ofGate (Gate.ofLimits 1 4 .unbounded)).run as)
          ((ofGate (Gate.ofLimits 1 4 .unbounded)).history as) :=
  ⟨rfl, never_overtaken ((Options.ofLimit 1).withBacklog 3 .unbounded) _ rfl _⟩

end World

end Admission.Gate

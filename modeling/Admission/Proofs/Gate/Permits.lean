/-
  Admission.Proofs.Gate.Permits — where the permits of a gate are.

  A run permit is in the pool, with a ticket, or with a parked request that it was handed to; a
  backlog permit is in the pool, with a ticket, or with a parked request.  While an operation is
  under way some permits are IN TRANSIT: taken from one place and not yet put into the next.
  `Balanced g r b` keeps the books of a gate with `r` run permits and `b` backlog permits in
  transit.

  Main results, each of them about a single move of permits:
    * `Balanced.returnRun`, `Balanced.returnBacklog` — a permit arrives in the pool, or with the
      first in line;
    * `Balanced.unpark`, `Balanced.spend` — a request or a ticket lets go of what it holds;
    * `Balanced.issue`, `Balanced.park` — a request settles at what it needs.
-/
import Mathlib.Data.List.Nodup
import Admission.Gate.Basic

namespace Admission.Gate

/-! ## §1. Who holds what. -/

/-- The tickets that still hold their permits. -/
def live (g : Gate) : List Ticket := g.tickets.filter fun t => !t.isReleased

/-- The parked requests that a run permit was handed to. -/
def promised (g : Gate) : List Waiter := g.waiters.filter (·.handed)

/-- The parked requests without a run permit, longest wait first. -/
def line (g : Gate) : List Waiter := g.waiters.filter fun w => !w.handed

/-- The numbers of all requests with a ticket or a place. -/
def ids (g : Gate) : List Nat := g.tickets.map (·.id) ++ g.waiters.map (·.id)

/-- A backlog permit leaves the pool. -/
def takeBacklog (g : Gate) : Gate := { g with freeBacklog := g.freeBacklog - 1 }

/-- A run permit leaves the pool. -/
def takeRun (g : Gate) : Gate := { g with freeRun := g.freeRun - 1 }

/-- The ticket of a request lets go of its permits. -/
def spend (g : Gate) (id : Nat) : Gate :=
  { g with tickets := g.tickets.map fun u => if u.id == id then spent u else u }

/-- The ticket of a request is gone. -/
def forget (g : Gate) (id : Nat) : Gate :=
  { g with tickets := g.tickets.filter (·.id != id) }

theorem length_promised_add_line (g : Gate) :
    g.promised.length + g.line.length = g.waiters.length :=
  (List.length_eq_length_filter_add _).symm

theorem isReleased_spent (t : Ticket) : (spent t).isReleased = true := rfl

theorem isReleased_eq_not_run {t : Ticket} (h : t.run = t.backlog) :
    t.isReleased = !t.run := by
  simp [Ticket.isReleased, ← h]

/-! ## §2. Lists with distinct numbers. -/

section Keyed

variable {α : Type} (key : α → Nat)

/-- An entry found by its number is the only one of that number. -/
theorem exists_split_of_find? {l : List α} {id : Nat} {a : α} (hn : (l.map key).Nodup)
    (h : l.find? (fun b => key b == id) = some a) :
    ∃ pre post, l = pre ++ a :: post ∧ key a = id
      ∧ (∀ b ∈ pre, key b ≠ id) ∧ (∀ b ∈ post, key b ≠ id) := by
  obtain ⟨hk, pre, post, rfl, hpre⟩ := List.find?_eq_some_iff_append.mp h
  have hk : key a = id := by simpa using hk
  refine ⟨pre, post, rfl, hk, fun b hb => by simpa using hpre b hb, fun b hb he => ?_⟩
  rw [List.map_append, List.map_cons, List.nodup_append] at hn
  exact (List.nodup_cons.mp hn.2.1).1 (List.mem_map.mpr ⟨b, hb, he.trans hk.symm⟩)

/-- An entry of the list is found by its number. -/
theorem find?_of_mem {l : List α} {a : α} (hn : (l.map key).Nodup) (ha : a ∈ l) :
    l.find? (fun b => key b == key a) = some a := by
  cases hf : l.find? (fun b => key b == key a) with
  | none =>
      have := List.find?_eq_none.mp hf a ha
      simp at this
  | some b =>
      have hkey : key b = key a := by simpa using List.find?_some hf
      rw [List.inj_on_of_nodup_map hn (List.mem_of_find?_eq_some hf) ha hkey]

theorem filter_ne_split {pre post : List α} {a : α} {id : Nat} (ha : key a = id)
    (hpre : ∀ b ∈ pre, key b ≠ id) (hpost : ∀ b ∈ post, key b ≠ id) :
    (pre ++ a :: post).filter (fun b => key b != id) = pre ++ post := by
  have h1 : pre.filter (fun b => key b != id) = pre :=
    List.filter_eq_self.mpr fun b hb => by simpa using hpre b hb
  have h2 : post.filter (fun b => key b != id) = post :=
    List.filter_eq_self.mpr fun b hb => by simpa using hpost b hb
  rw [List.filter_append, List.filter_cons, h1, h2]
  simp [ha]

theorem filter_ne_of_notMem {l : List α} {id : Nat} (h : id ∉ l.map key) :
    l.filter (fun b => key b != id) = l :=
  List.filter_eq_self.mpr fun b hb => by
    simpa using fun he : key b = id => h (List.mem_map.mpr ⟨b, hb, he⟩)

section Change

variable (f : α → α) (hf : ∀ b, key (f b) = key b)

/-- A change to the entries of one number changes one entry. -/
theorem map_ite_split {pre post : List α} {a : α} {id : Nat} (ha : key a = id)
    (hpre : ∀ b ∈ pre, key b ≠ id) (hpost : ∀ b ∈ post, key b ≠ id) :
    (pre ++ a :: post).map (fun b => if key b == id then f b else b) = pre ++ f a :: post := by
  have hself : ∀ l : List α, (∀ b ∈ l, key b ≠ id) →
      l.map (fun b => if key b == id then f b else b) = l := by
    intro l hl
    calc l.map (fun b => if key b == id then f b else b)
        = l.map (fun b => b) := List.map_congr_left fun b hb => by simp [hl b hb]
      _ = l := List.map_id' l
  rw [List.map_append, List.map_cons, hself pre hpre, hself post hpost, if_pos (by simpa using ha)]

include hf

theorem key_ite (id : Nat) (b : α) : key (if key b == id then f b else b) = key b := by
  split
  · exact hf b
  · rfl

/-- A change that leaves the numbers alone. -/
theorem map_key_map_ite (l : List α) (id : Nat) :
    (l.map fun b => if key b == id then f b else b).map key = l.map key := by
  rw [List.map_map]
  exact List.map_congr_left fun b _ => key_ite key f hf id b

/-- What is found after the change is what was found before it, changed. -/
theorem find?_map_ite {l : List α} {id : Nat} {a : α}
    (h : l.find? (fun b => key b == id) = some a) :
    (l.map fun b => if key b == id then f b else b).find? (fun b => key b == id)
      = some (f a) := by
  have hkey : key a = id := by simpa using List.find?_some h
  have hcomp : (fun b => key b == id) ∘ (fun b => if key b == id then f b else b)
      = fun b => key b == id := by
    funext b
    show (key (if key b == id then f b else b) == id) = _
    rw [key_ite key f hf]
  rw [List.find?_map, hcomp, h, Option.map_some, if_pos (by simpa using hkey)]

/-- The other entries are what they were. -/
theorem filter_ne_map_ite (l : List α) (id : Nat) :
    (l.map fun b => if key b == id then f b else b).filter (fun b => key b != id)
      = l.filter (fun b => key b != id) := by
  have hcomp : (fun b => key b != id) ∘ (fun b => if key b == id then f b else b)
      = fun b => key b != id := by
    funext b
    show (key (if key b == id then f b else b) != id) = _
    rw [key_ite key f hf]
  rw [List.filter_map, hcomp]
  calc (l.filter fun b => key b != id).map (fun b => if key b == id then f b else b)
      = (l.filter fun b => key b != id).map (fun b => b) := by
        refine List.map_congr_left fun b hb => if_neg ?_
        simpa using (List.mem_filter.mp hb).2
    _ = l.filter (fun b => key b != id) := List.map_id' _

end Change

end Keyed

/-! ## §3. Handing a permit on. -/

theorem handFirst_eq_none_iff : ∀ ws : List Waiter,
    handFirst ws = none ↔ ∀ w ∈ ws, w.handed = true
  | [] => by simp [handFirst]
  | w :: ws => by
      cases hw : w.handed with
      | true => simp [handFirst, hw, handFirst_eq_none_iff ws]
      | false => simp [handFirst, hw]

/-- A permit that is handed on goes to the first in line, and to nobody else. -/
theorem exists_of_handFirst : ∀ {ws ws' : List Waiter}, handFirst ws = some ws' →
    ∃ pre w post, ws = pre ++ w :: post ∧ (∀ p ∈ pre, p.handed = true) ∧ w.handed = false
      ∧ ws' = pre ++ { w with handed := true } :: post
  | [], ws', h => by simp [handFirst] at h
  | w :: ws, ws', h => by
      cases hw : w.handed with
      | false =>
          refine ⟨[], w, ws, rfl, by simp, hw, ?_⟩
          simpa [handFirst, hw] using h.symm
      | true =>
          simp only [handFirst, hw, if_true, Option.map_eq_some_iff] at h
          obtain ⟨vs, hvs, rfl⟩ := h
          obtain ⟨pre, v, post, rfl, hpre, hv, rfl⟩ := exists_of_handFirst hvs
          refine ⟨w :: pre, v, post, rfl, ?_, hv, rfl⟩
          intro p hp
          rcases List.mem_cons.mp hp with rfl | hp
          · exact hw
          · exact hpre p hp

/-- What a returned run permit can do. -/
inductive RunReturn (g : Gate) : Gate → Prop where
  /-- Nobody lacks one: it goes back to the pool. -/
  | toPool (h : g.line = []) : RunReturn g { g with freeRun := g.freeRun + 1 }
  /-- It goes to the first in line. -/
  | toFirst {pre post : List Waiter} {w : Waiter} (hg : g.waiters = pre ++ w :: post)
      (hpre : ∀ p ∈ pre, p.handed = true) (hw : w.handed = false) :
      RunReturn g { g with waiters := pre ++ { w with handed := true } :: post }

theorem line_eq_nil_iff (g : Gate) : g.line = [] ↔ ∀ w ∈ g.waiters, w.handed = true := by
  simp [line, List.filter_eq_nil_iff]

theorem returnRun_runReturn (g : Gate) : RunReturn g g.returnRun := by
  unfold returnRun
  cases h : handFirst g.waiters with
  | none =>
      refine .toPool ((line_eq_nil_iff g).mpr ?_)
      exact (handFirst_eq_none_iff _).mp h
  | some ws =>
      obtain ⟨pre, w, post, hg, hpre, hw, rfl⟩ := exists_of_handFirst h
      exact .toFirst hg hpre hw

/-! ## §4. The books. -/

/-- **THE BOOKS OF A GATE** with `run` run permits and `backlog` backlog permits in transit. -/
structure Balanced (g : Gate) (run backlog : Nat) : Prop where
  run_sum : g.freeRun + g.live.length + g.promised.length + run = g.limit
  backlog_sum : g.freeBacklog + g.live.length + g.waiters.length + backlog = g.capacity
  /-- A ticket holds both permits or neither. -/
  paired : ∀ t ∈ g.tickets, t.run = t.backlog
  /-- No request has two tickets, two places, or one of each. -/
  nodup : g.ids.Nodup
  /-- While somebody is in line, no run permit lies idle. -/
  saturated : 0 < g.freeRun → g.line = []

namespace Balanced

variable {g : Gate} {r b : Nat}

theorem tickets_nodup (h : Balanced g r b) : (g.tickets.map (·.id)).Nodup :=
  (List.nodup_append.mp h.nodup).1

theorem waiters_nodup (h : Balanced g r b) : (g.waiters.map (·.id)).Nodup :=
  (List.nodup_append.mp h.nodup).2.1

/-- A parked request has no ticket. -/
theorem notMem_tickets (h : Balanced g r b) {id : Nat} (hid : id ∈ g.waiters.map (·.id)) :
    id ∉ g.tickets.map (·.id) :=
  fun ht => (List.nodup_append.mp h.nodup).2.2 id ht id hid rfl

theorem recordRejected (h : Balanced g r b) (reason : Reason) :
    Balanced (g.recordRejected reason) r b :=
  ⟨h.run_sum, h.backlog_sum, h.paired, h.nodup, h.saturated⟩

theorem returnBacklog (h : Balanced g r (b + 1)) : Balanced g.returnBacklog r b :=
  ⟨h.run_sum,
    (by have := h.backlog_sum
        show g.freeBacklog + 1 + g.live.length + g.waiters.length + b = g.capacity
        omega),
    h.paired, h.nodup, h.saturated⟩

theorem takeBacklog (h : Balanced g r b) (hb : 0 < g.freeBacklog) :
    Balanced g.takeBacklog r (b + 1) :=
  ⟨h.run_sum,
    (by have := h.backlog_sum
        show g.freeBacklog - 1 + g.live.length + g.waiters.length + (b + 1) = g.capacity
        omega),
    h.paired, h.nodup, h.saturated⟩

theorem takeRun (h : Balanced g r b) (hr : 0 < g.freeRun) : Balanced g.takeRun (r + 1) b :=
  ⟨(by have := h.run_sum
       show g.freeRun - 1 + g.live.length + g.promised.length + (r + 1) = g.limit
       omega),
    h.backlog_sum, h.paired, h.nodup, fun _ => h.saturated hr⟩

/-- **A RETURNED RUN PERMIT ARRIVES**: in the pool, or with the first in line. -/
theorem returnRun (h : Balanced g (r + 1) b) : Balanced g.returnRun r b := by
  have hret := returnRun_runReturn g
  generalize g.returnRun = g' at hret ⊢
  cases hret with
  | toPool hl =>
      exact ⟨by have := h.run_sum
                show g.freeRun + 1 + g.live.length + g.promised.length + r = g.limit
                omega,
        h.backlog_sum, h.paired, h.nodup, fun _ => hl⟩
  | @toFirst pre post w hg hpre hw =>
      -- one request more was promised a run permit; nothing else has changed
      have hrun := h.run_sum
      have hback := h.backlog_sum
      have hnodup := h.nodup
      refine ⟨?_, ?_, h.paired, ?_, fun hpos => ?_⟩
      · rw [promised, hg] at hrun
        simp only [promised, List.filter_append, List.filter_cons, hw, List.length_append] at hrun ⊢
        simp only [live, List.length_cons, if_true, Bool.false_eq_true, if_false] at hrun ⊢
        omega
      · rw [hg] at hback
        simpa [live] using hback
      · simpa [ids, hg] using hnodup
      · -- the pool was empty, since somebody was in line
        have hl := h.saturated hpos
        rw [line_eq_nil_iff, hg] at hl
        have := hl w (by simp)
        rw [hw] at this
        contradiction

/-- **A PARKED REQUEST LEAVES THE LINE**: what it held is in transit. -/
theorem unpark (h : Balanced g r b) {w : Waiter} (hw : g.waiter? w.id = some w) :
    Balanced (g.unpark w.id) (r + if w.handed then 1 else 0) (b + 1) := by
  obtain ⟨pre, post, hg, hid, hpre, hpost⟩ := exists_split_of_find? _ h.waiters_nodup hw
  -- nobody else in the line has its number, so what is left are the two parts around it
  have hun : (g.unpark w.id).waiters = pre ++ post := by
    show g.waiters.filter _ = _
    rw [hg]
    exact filter_ne_split _ hid hpre hpost
  have hrun := h.run_sum
  have hback := h.backlog_sum
  have hnodup := h.nodup
  refine ⟨?_, ?_, h.paired, ?_, fun hpos => ?_⟩
  · rw [promised, hg] at hrun
    rw [promised, hun]
    show g.freeRun + g.live.length + _ + _ = g.limit
    cases hh : w.handed <;>
      simp [List.filter_append, hh] at hrun ⊢ <;> omega
  · rw [hg] at hback
    rw [hun]
    show g.freeBacklog + g.live.length + _ + _ = g.capacity
    simp at hback ⊢
    omega
  · rw [ids, hg] at hnodup
    rw [ids, hun]
    refine hnodup.sublist (List.Sublist.append_left ?_ _)
    exact ((List.sublist_cons_self _ _).append_left _).map _
  · -- whoever is still in line was so before
    have hl := h.saturated hpos
    rw [line_eq_nil_iff] at hl ⊢
    rw [hun]
    rw [hg] at hl
    intro v hv
    refine hl v ?_
    simp only [List.mem_append, List.mem_cons] at hv ⊢
    exact hv.imp_right .inr

/-- A request with a permit of each kind settles at its ticket. -/
theorem issue (h : Balanced g (r + 1) (b + 1)) {id : Nat} (hid : id ∉ g.ids) :
    Balanced (g.issue id) r b := by
  have hlive : (g.issue id).live = g.live ++ [⟨id, true, true⟩] := by
    simp [live, Gate.issue, List.filter_append, Ticket.isReleased]
  refine ⟨?_, ?_, ?_, ?_, h.saturated⟩
  · have := h.run_sum
    rw [hlive, List.length_append]
    show g.freeRun + (g.live.length + 1) + g.promised.length + r = g.limit
    omega
  · have := h.backlog_sum
    rw [hlive, List.length_append]
    show g.freeBacklog + (g.live.length + 1) + g.waiters.length + b = g.capacity
    omega
  · intro t ht
    rcases List.mem_append.mp ht with ht | ht
    · exact h.paired t ht
    · rw [List.mem_singleton.mp ht]
  · have hnodup := h.nodup
    simp only [ids, Gate.issue, List.map_append, List.map_cons, List.map_nil,
      List.append_assoc] at hnodup hid ⊢
    rw [List.singleton_append, List.nodup_middle, List.nodup_cons]
    exact ⟨hid, hnodup⟩

/-- A request with a backlog permit settles at the end of the line, once no run permit is free. -/
theorem park (h : Balanced g r (b + 1)) {id : Nat} (hid : id ∉ g.ids) (now : Duration)
    (hfree : g.freeRun = 0) : Balanced (g.park id now) r b := by
  have hpark : (g.park id now).waiters = g.waiters ++ [⟨id, now, false⟩] := rfl
  refine ⟨?_, ?_, h.paired, ?_, fun hpos => absurd hpos (by simp [Gate.park, hfree])⟩
  · have hprom : (g.park id now).promised = g.promised := by
      rw [promised, hpark, List.filter_append]
      simp [promised]
    rw [hprom]
    exact h.run_sum
  · have := h.backlog_sum
    rw [hpark, List.length_append]
    show g.freeBacklog + g.live.length + (g.waiters.length + 1) + b = g.capacity
    omega
  · have hnodup := h.nodup
    simp only [ids, hpark, List.map_append, List.map_cons, List.map_nil] at hnodup hid ⊢
    rw [← List.append_assoc, List.nodup_append]
    refine ⟨hnodup, List.nodup_singleton _, fun a ha c hc => ?_⟩
    rw [List.mem_singleton.mp hc]
    exact fun he => hid (he ▸ ha)

/-- **A TICKET LETS GO**: if it was live, a permit of each kind is in transit. -/
theorem spend (h : Balanced g r b) {t : Ticket} (ht : g.ticket? t.id = some t) :
    Balanced (g.spend t.id) (r + if t.run then 1 else 0) (b + if t.backlog then 1 else 0) := by
  obtain ⟨pre, post, hg, hid, hpre, hpost⟩ := exists_split_of_find? _ h.tickets_nodup ht
  have hsp : (g.spend t.id).tickets = pre ++ spent t :: post := by
    show g.tickets.map _ = _
    rw [hg]
    exact map_ite_split Ticket.id spent hid hpre hpost
  -- a ticket with one permit has the other, so either both sums change or none
  have hp : t.run = t.backlog := h.paired t (by rw [hg]; simp)
  have hrun := h.run_sum
  have hback := h.backlog_sum
  have hlive : (g.spend t.id).live.length + (if t.run then 1 else 0) = g.live.length := by
    rw [live, hsp, live, hg]
    simp only [List.filter_append, List.filter_cons, List.length_append, isReleased_spent,
      isReleased_eq_not_run hp]
    cases t.run
    · simp
    · simp
      omega
  refine ⟨?_, ?_, ?_, ?_, h.saturated⟩
  · show g.freeRun + (g.spend t.id).live.length + g.promised.length + _ = g.limit
    omega
  · show g.freeBacklog + (g.spend t.id).live.length + g.waiters.length + _ = g.capacity
    rw [← hp]
    omega
  · intro u hu
    rw [hsp] at hu
    have hmem : u = spent t ∨ u ∈ g.tickets := by
      rw [hg]
      simp only [List.mem_append, List.mem_cons] at hu ⊢
      tauto
    rcases hmem with rfl | hu
    · rfl
    · exact h.paired u hu
  · have hnodup := h.nodup
    rw [ids, hg] at hnodup
    rw [ids, hsp]
    show (_ ++ g.waiters.map (·.id)).Nodup
    simpa [spent] using hnodup

/-- A ticket without permits may go. -/
theorem forget (h : Balanced g r b) {id : Nat}
    (hid : ∀ t ∈ g.tickets, t.id = id → t.isReleased = true) : Balanced (g.forget id) r b := by
  -- the ticket that goes is none of the live ones
  have hlive : (g.forget id).live = g.live := by
    show (g.tickets.filter _).filter _ = g.tickets.filter _
    rw [List.filter_filter]
    refine List.filter_congr fun t ht => ?_
    cases hr : t.isReleased with
    | true => simp
    | false =>
        have : t.id ≠ id := fun he => by simp [hid t ht he] at hr
        simp [this]
  refine ⟨?_, ?_, ?_, ?_, h.saturated⟩
  · rw [hlive]
    exact h.run_sum
  · rw [hlive]
    exact h.backlog_sum
  · exact fun t ht => h.paired t (List.mem_filter.mp ht).1
  · exact h.nodup.sublist (((List.filter_sublist).map _).append_right _)

end Balanced

end Admission.Gate

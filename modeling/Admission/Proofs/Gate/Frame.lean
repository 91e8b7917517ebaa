/-
  Admission.Proofs.Gate.Frame — what an operation about one request leaves alone.

  Every operation of a gate is about one request.  To all others it does at most one thing: a run
  permit that comes back is handed to the first in line.  `Beside k g g'` says that `g` and `g'`
  differ in what concerns request `k`, in the pools and counters, and in who was handed a run
  permit; the tickets and the places of all others are the same.

  Main results:
    * `Beside.enter`, `Beside.resume`, `Beside.abandon`, `Beside.release`, `Beside.discard` — each
      operation is about its own request;
    * `Balanced.gaveBack_discard` — **a ticket that is dropped gives both permits back, and nothing
      else happens**.
-/
import Admission.Proofs.Gate.History

namespace Admission.Gate

/-! ## §1. Places. -/

/-- Who is parked, and since when, longest wait first. -/
def places (g : Gate) : List (Nat × Duration) := g.waiters.map fun u => (u.id, u.since)

theorem map_fst_places (g : Gate) : g.places.map (·.1) = g.waiters.map (·.id) := by
  unfold places
  rw [List.map_map]
  rfl

/-- A run permit that is handed on moves nobody. -/
theorem places_returnRun (g : Gate) : g.returnRun.places = g.places := by
  have hret := returnRun_runReturn g
  generalize g.returnRun = g' at hret ⊢
  cases hret with
  | toPool => rfl
  | toFirst hg =>
      unfold places
      rw [hg]
      simp

theorem places_unpark (g : Gate) (id : Nat) :
    (g.unpark id).places = g.places.filter (·.1 != id) := by
  unfold places unpark
  rw [List.filter_map]
  rfl

theorem places_park (g : Gate) (id : Nat) (now : Duration) :
    (g.park id now).places = g.places ++ [(id, now)] := by
  unfold places park
  rw [List.map_append]
  rfl

/-! ## §2. The frame. -/

/-- **WHAT AN OPERATION ABOUT REQUEST `k` LEAVES ALONE**: the terms of the gate, and the tickets and
places of all other requests. -/
structure Beside (k : Nat) (g g' : Gate) : Prop where
  limit : g'.limit = g.limit
  capacity : g'.capacity = g.capacity
  wait : g'.wait = g.wait
  tickets : g'.tickets.filter (·.id != k) = g.tickets.filter (·.id != k)
  places : g'.places.filter (·.1 != k) = g.places.filter (·.1 != k)

namespace Beside

variable {k : Nat} {g g' g'' : Gate}

theorem refl (k : Nat) (g : Gate) : Beside k g g := ⟨rfl, rfl, rfl, rfl, rfl⟩

theorem trans (h : Beside k g g') (h' : Beside k g' g'') : Beside k g g'' := by
  constructor
  · rw [h'.limit, h.limit]
  · rw [h'.capacity, h.capacity]
  · rw [h'.wait, h.wait]
  · rw [h'.tickets, h.tickets]
  · rw [h'.places, h.places]

/-- What is said of another request's ticket does not change. -/
theorem mem_tickets_iff (h : Beside k g g') {t : Ticket} (ht : t.id ≠ k) :
    t ∈ g'.tickets ↔ t ∈ g.tickets := by
  have hfilter : ∀ l : List Ticket, t ∈ l.filter (·.id != k) ↔ t ∈ l := by
    intro l
    rw [List.mem_filter]
    simp [ht]
  rw [← hfilter g'.tickets, h.tickets, hfilter]

theorem mem_places_iff (h : Beside k g g') {p : Nat × Duration} (hp : p.1 ≠ k) :
    p ∈ g'.places ↔ p ∈ g.places := by
  have hfilter : ∀ l : List (Nat × Duration), p ∈ l.filter (·.1 != k) ↔ p ∈ l := by
    intro l
    rw [List.mem_filter]
    simp [hp]
  rw [← hfilter g'.places, h.places, hfilter]

theorem mem_ticketIds_iff (h : Beside k g g') {i : Nat} (hi : i ≠ k) :
    i ∈ g'.tickets.map (·.id) ↔ i ∈ g.tickets.map (·.id) := by
  rw [List.mem_map, List.mem_map]
  constructor
  · rintro ⟨t, ht, rfl⟩
    exact ⟨t, (h.mem_tickets_iff hi).mp ht, rfl⟩
  · rintro ⟨t, ht, rfl⟩
    exact ⟨t, (h.mem_tickets_iff hi).mpr ht, rfl⟩

theorem mem_waiterIds_iff (h : Beside k g g') {i : Nat} (hi : i ≠ k) :
    i ∈ g'.waiters.map (·.id) ↔ i ∈ g.waiters.map (·.id) := by
  rw [← map_fst_places, ← map_fst_places, List.mem_map, List.mem_map]
  constructor
  · rintro ⟨p, hp, rfl⟩
    exact ⟨p, (h.mem_places_iff hi).mp hp, rfl⟩
  · rintro ⟨p, hp, rfl⟩
    exact ⟨p, (h.mem_places_iff hi).mpr hp, rfl⟩

theorem mem_ids_iff (h : Beside k g g') {i : Nat} (hi : i ≠ k) : i ∈ g'.ids ↔ i ∈ g.ids := by
  unfold Gate.ids
  rw [List.mem_append, List.mem_append, h.mem_ticketIds_iff hi, h.mem_waiterIds_iff hi]

/-! ### Single moves. -/

/-- Only pools, counters and hand-overs differ. -/
theorem of_eq (hl : g'.limit = g.limit) (hc : g'.capacity = g.capacity) (hw : g'.wait = g.wait)
    (ht : g'.tickets = g.tickets) (hp : g'.places = g.places) : Beside k g g' := by
  refine ⟨hl, hc, hw, ?_, ?_⟩
  · rw [ht]
  · rw [hp]

theorem recordRejected (g : Gate) (reason : Reason) : Beside k g (g.recordRejected reason) :=
  of_eq rfl rfl rfl rfl rfl

theorem returnBacklog (g : Gate) : Beside k g g.returnBacklog := of_eq rfl rfl rfl rfl rfl

theorem returnRun (g : Gate) : Beside k g g.returnRun := by
  have hplaces := places_returnRun g
  have htickets := tickets_returnRun g
  unfold Gate.returnRun at hplaces htickets ⊢
  cases hf : handFirst g.waiters with
  | none => exact of_eq rfl rfl rfl rfl rfl
  | some ws =>
      rw [hf] at hplaces
      exact of_eq rfl rfl rfl rfl hplaces

theorem unpark (g : Gate) (k : Nat) : Beside k g (g.unpark k) := by
  refine ⟨rfl, rfl, rfl, rfl, ?_⟩
  rw [places_unpark, List.filter_filter]
  simp

theorem park (g : Gate) (k : Nat) (now : Duration) : Beside k g (g.takeBacklog.park k now) := by
  refine ⟨rfl, rfl, rfl, rfl, ?_⟩
  rw [places_park, List.filter_append]
  show g.places.filter _ ++ _ = _
  simp

/-- A ticket is added. -/
theorem issue (h : Beside k g g') : Beside k g (g'.issue k) := by
  refine ⟨h.limit, h.capacity, h.wait, ?_, h.places⟩
  show (g'.tickets ++ [_]).filter _ = _
  rw [List.filter_append, h.tickets]
  simp

theorem spend (g : Gate) (k : Nat) : Beside k g (g.spend k) :=
  ⟨rfl, rfl, rfl, filter_ne_map_ite Ticket.id spent (fun _ => rfl) g.tickets k, rfl⟩

theorem forget (g : Gate) (k : Nat) : Beside k g (g.forget k) := by
  refine ⟨rfl, rfl, rfl, ?_, rfl⟩
  show (g.tickets.filter _).filter _ = _
  rw [List.filter_filter]
  simp

/-! ### Operations. -/

theorem leave (g : Gate) (u : Waiter) (reason : Reason) : Beside u.id g (g.leave u reason) := by
  have hun := unpark g u.id
  unfold Gate.leave
  cases u.handed with
  | true => exact ((hun.trans (returnRun _)).trans (returnBacklog _)).trans (recordRejected _ _)
  | false => exact (hun.trans (returnBacklog _)).trans (recordRejected _ _)

theorem enter (g : Gate) {k : Nat} (hk : k ∉ g.ids) (now : Duration) (done : Bool) :
    Beside k g (g.enter k now done).1 := by
  have hw : k ∉ g.waiters.map (·.id) := fun hm => hk (List.mem_append_right _ hm)
  have he := enter_entry g hw now done
  generalize g.enter k now done = out at he ⊢
  cases he with
  | ended => exact recordRejected g _
  | full => exact recordRejected g _
  | admitted => exact issue (of_eq rfl rfl rfl rfl rfl)
  | impatient => exact recordRejected g _
  | parked => exact park g k now

theorem resume (g : Gate) (k : Nat) (now : Duration) (done : Bool) :
    Beside k g (g.resume k now done).1 := by
  cases hu : g.waiter? k with
  | none =>
      simp only [Gate.resume, hu]
      exact refl k g
  | some u =>
      have hid := id_of_waiter? hu
      subst hid
      have hr := resume_resumption g hu now done
      generalize g.resume u.id now done = out at hr ⊢
      cases hr with
      | ended => exact leave g u _
      | admitted => exact issue (unpark g u.id)
      | expired => exact leave g u _
      | parked => exact refl _ g

theorem abandon (g : Gate) (k : Nat) : Beside k g (g.abandon k) := by
  cases hu : g.waiter? k with
  | none =>
      rw [abandon_of_none hu]
      exact refl k g
  | some u =>
      have hid := id_of_waiter? hu
      subst hid
      rw [abandon_of_some hu]
      exact leave g u _

theorem release (hb : Balanced g 0 0) (k : Nat) : Beside k g (g.release k) := by
  cases ht : g.ticket? k with
  | none =>
      rw [release_of_none ht]
      exact refl k g
  | some t =>
      have hid := id_of_ticket? ht
      subst hid
      rw [release_eq ht (hb.paired t (mem_of_ticket? ht))]
      split
      · exact ((spend g t.id).trans (returnRun _)).trans (returnBacklog _)
      · exact spend g t.id

theorem discard (hb : Balanced g 0 0) (k : Nat) : Beside k g (g.discard k) := by
  rw [discard_eq]
  exact (release hb k).trans (forget _ k)

end Beside

/-! ## §3. A request that holds nothing any more. -/

theorem notMem_ticketIds_forget (g : Gate) (id : Nat) :
    id ∉ (g.forget id).tickets.map (·.id) := by
  intro hm
  obtain ⟨t, ht, he⟩ := List.mem_map.mp hm
  have hne := (List.mem_filter.mp ht).2
  simp [he] at hne

theorem notMem_ticketIds_discard (g : Gate) (id : Nat) :
    id ∉ (g.discard id).tickets.map (·.id) := by
  rw [discard_eq]
  exact notMem_ticketIds_forget _ id

/-- A ticket that is dropped counts for nothing. -/
theorem Balanced.counters_discard {g : Gate} {r b : Nat} (h : Balanced g r b) (id : Nat) :
    (g.discard id).counters = g.counters := by
  rw [discard_eq]
  show (g.release id).counters = g.counters
  cases ht : g.ticket? id with
  | none => rw [release_of_none ht]
  | some t =>
      have hid := id_of_ticket? ht
      subst hid
      cases hl : t.isReleased with
      | false => exact counters_release h ht hl
      | true =>
          have hrun : t.run = false := by
            simp only [Ticket.isReleased, Bool.and_eq_true, Bool.not_eq_true'] at hl
            exact hl.1
          rw [release_eq ht (h.paired t (mem_of_ticket? ht)), hrun, if_neg Bool.false_ne_true]
          rfl

/-- A ticket that holds both permits is found, and it is live. -/
theorem Balanced.ticket?_of_mem {g : Gate} {r b : Nat} (h : Balanced g r b) {t : Ticket}
    (ht : t ∈ g.tickets) : g.ticket? t.id = some t :=
  find?_of_mem Ticket.id h.tickets_nodup ht

/-- **BOTH PERMITS OF REQUEST `k` CAME BACK**: the run permit to the pool, or to the first in line
where somebody stands in it; the ticket is gone, and nothing else has changed. -/
structure GaveBack (k : Nat) (g g' : Gate) : Prop where
  limit : g'.limit = g.limit
  capacity : g'.capacity = g.capacity
  wait : g'.wait = g.wait
  counters : g'.counters = g.counters
  tickets : g'.tickets = g.tickets.filter (·.id != k)
  backlog : g'.freeBacklog = g.freeBacklog + 1
  run : (g.line = [] ∧ g'.freeRun = g.freeRun + 1 ∧ g'.waiters = g.waiters)
    ∨ ∃ pre u post, g.waiters = pre ++ u :: post ∧ (∀ p ∈ pre, p.handed = true)
        ∧ u.handed = false ∧ g'.freeRun = g.freeRun
        ∧ g'.waiters = pre ++ { u with handed := true } :: post

theorem forget_spend (g : Gate) (id : Nat) :
    (g.spend id).tickets.filter (·.id != id) = g.tickets.filter (·.id != id) :=
  filter_ne_map_ite Ticket.id spent (fun _ => rfl) g.tickets id

/-- **A LIVE TICKET THAT IS DROPPED GIVES BOTH PERMITS BACK**, and nothing else happens. -/
theorem Balanced.gaveBack_discard {g : Gate} {r b : Nat} (h : Balanced g r b) {t : Ticket}
    (ht : g.ticket? t.id = some t) (hl : t.isReleased = false) :
    GaveBack t.id g (g.discard t.id) := by
  rw [discard_eq, h.release_of_live ht hl]
  have hret := returnRun_runReturn (g.spend t.id)
  generalize (g.spend t.id).returnRun = g' at hret ⊢
  have htickets := forget_spend g t.id
  cases hret with
  | toPool hline => exact ⟨rfl, rfl, rfl, rfl, htickets, rfl, .inl ⟨hline, rfl, rfl⟩⟩
  | @toFirst pre post u hg hpre hu =>
      exact ⟨rfl, rfl, rfl, rfl, htickets, rfl, .inr ⟨pre, u, post, hg, hpre, hu, rfl, rfl⟩⟩

end Admission.Gate

/-
  Admission.Proofs.Gate.Operations — what the operations of a gate do with its permits.

  `Entry` and `Resumption` list what a poll can do, each case with the conditions under which it is
  taken and with the gate that it leaves, written as a chain of moves.  That each operation keeps the
  books follows case by case from what the single moves do.

  Main results:
    * `enter_entry`, `resume_resumption`, `release_eq` — the cases are exhaustive;
    * `Balanced.enter`, `Balanced.resume`, `Balanced.abandon`, `Balanced.release`,
      `Balanced.discard` — no operation leaves a permit in transit;
    * `release_of_released` — **a second release changes nothing**.
-/
import Admission.Proofs.Gate.Permits

namespace Admission.Gate

/-! ## §1. What each operation can do. -/

/-- What the first poll of a request can do. -/
inductive Entry (g : Gate) (id : Nat) (now : Duration) (done : Bool) : Gate × Verdict → Prop where
  /-- Its context has ended before. -/
  | ended (hd : done = true) :
      Entry g id now done (g.recordRejected (.timeout true), .rejected (.timeout true))
  /-- No backlog permit is left. -/
  | full (hd : done = false) (hb : g.freeBacklog = 0) :
      Entry g id now done (g.recordRejected .capacity, .rejected .capacity)
  | admitted (hd : done = false) (hb : 0 < g.freeBacklog) (hr : 0 < g.freeRun) :
      Entry g id now done (g.takeBacklog.takeRun.issue id, .admitted)
  /-- No run permit is left, and the policy does not let it wait. -/
  | impatient (hd : done = false) (hb : 0 < g.freeBacklog) (hr : g.freeRun = 0)
      (he : g.wait.expired now now = true) :
      Entry g id now done (g.recordRejected (.timeout false), .rejected (.timeout false))
  | parked (hd : done = false) (hb : 0 < g.freeBacklog) (hr : g.freeRun = 0)
      (he : g.wait.expired now now = false) :
      Entry g id now done (g.takeBacklog.park id now, .parked)

/-- What a later poll of a parked request can do. -/
inductive Resumption (g : Gate) (w : Waiter) (now : Duration) (done : Bool) :
    Gate × Verdict → Prop where
  | ended (hd : done = true) :
      Resumption g w now done (g.leave w (.timeout true), .rejected (.timeout true))
  | admitted (hd : done = false) (hw : w.handed = true) :
      Resumption g w now done ((g.unpark w.id).issue w.id, .admitted)
  | expired (hd : done = false) (hw : w.handed = false)
      (he : g.wait.expired w.since now = true) :
      Resumption g w now done (g.leave w (.timeout false), .rejected (.timeout false))
  | parked (hd : done = false) (hw : w.handed = false)
      (he : g.wait.expired w.since now = false) : Resumption g w now done (g, .parked)

theorem id_of_waiter? {g : Gate} {id : Nat} {w : Waiter} (h : g.waiter? id = some w) :
    w.id = id := by
  simpa using List.find?_some h

theorem id_of_ticket? {g : Gate} {id : Nat} {t : Ticket} (h : g.ticket? id = some t) :
    t.id = id := by
  simpa using List.find?_some h

theorem mem_of_waiter? {g : Gate} {id : Nat} {w : Waiter} (h : g.waiter? id = some w) :
    w ∈ g.waiters :=
  List.mem_of_find?_eq_some h

theorem mem_of_ticket? {g : Gate} {id : Nat} {t : Ticket} (h : g.ticket? id = some t) :
    t ∈ g.tickets :=
  List.mem_of_find?_eq_some h

theorem waiter?_eq_none_iff {g : Gate} {id : Nat} :
    g.waiter? id = none ↔ id ∉ g.waiters.map (·.id) := by
  simp [waiter?]

theorem ticket?_eq_none_iff {g : Gate} {id : Nat} :
    g.ticket? id = none ↔ id ∉ g.tickets.map (·.id) := by
  simp [ticket?]

/-- A request that parks is found where it parked. -/
theorem waiter?_park {g : Gate} {id : Nat} (hid : id ∉ g.waiters.map (·.id)) (now : Duration) :
    (g.park id now).waiter? id = some ⟨id, now, false⟩ := by
  have hnone : g.waiters.find? (·.id == id) = none := waiter?_eq_none_iff.mpr hid
  show (g.waiters ++ [(⟨id, now, false⟩ : Waiter)]).find? (fun w => w.id == id) = _
  rw [List.find?_append, hnone]
  simp

/-- A request that parks and leaves at once has moved nothing. -/
theorem leave_park {g : Gate} {id : Nat} (hid : id ∉ g.waiters.map (·.id)) (now : Duration)
    (hb : 0 < g.freeBacklog) (reason : Reason) :
    (g.takeBacklog.park id now).leave ⟨id, now, false⟩ reason = g.recordRejected reason := by
  have hw : (g.waiters ++ [(⟨id, now, false⟩ : Waiter)]).filter (fun w => w.id != id)
      = g.waiters := by
    rw [List.filter_append, filter_ne_of_notMem Waiter.id hid]
    simp
  have hf : g.freeBacklog - 1 + 1 = g.freeBacklog := by omega
  simp [leave, unpark, park, takeBacklog, returnBacklog, recordRejected, hw, hf]

theorem enter_entry (g : Gate) {id : Nat} (hid : id ∉ g.waiters.map (·.id)) (now : Duration)
    (done : Bool) : Entry g id now done (g.enter id now done) := by
  unfold enter
  split
  next hd => exact .ended hd
  next hd =>
    have hd : done = false := by simpa using hd
    split
    next hb => exact .full hd hb
    next hb =>
      have hb : 0 < g.freeBacklog := Nat.pos_of_ne_zero hb
      -- with a run permit at hand nobody parks; otherwise the call is parked and polled
      by_cases hr : 0 < g.freeRun
      · rw [if_pos hr]
        exact .admitted hd hb hr
      · rw [if_neg hr]
        have hr : g.freeRun = 0 := by omega
        show Entry g id now done ((g.takeBacklog.park id now).resume id now false)
        have hf : (g.takeBacklog.park id now).waiter? id = some ⟨id, now, false⟩ :=
          waiter?_park (g := g.takeBacklog) hid now
        have hwait : (g.takeBacklog.park id now).wait = g.wait := rfl
        simp only [resume, hf, hwait, Bool.false_eq_true, if_false]
        split
        next he =>
          rw [leave_park hid now hb]
          exact .impatient hd hb hr he
        next he => exact .parked hd hb hr (by simpa using he)

theorem resume_resumption (g : Gate) {id : Nat} {w : Waiter} (hw : g.waiter? id = some w)
    (now : Duration) (done : Bool) : Resumption g w now done (g.resume id now done) := by
  have hid := id_of_waiter? hw
  subst hid
  simp only [resume, hw]
  split
  next hd => exact .ended hd
  next hd =>
    have hd : done = false := by simpa using hd
    split
    next hh => exact .admitted hd hh
    next hh =>
      have hh : w.handed = false := by simpa using hh
      split
      next he => exact .expired hd hh he
      next he => exact .parked hd hh (by simpa using he)

@[simp] theorem tickets_returnRun (g : Gate) : g.returnRun.tickets = g.tickets := by
  unfold returnRun
  cases handFirst g.waiters <;> rfl

@[simp] theorem freeBacklog_returnRun (g : Gate) : g.returnRun.freeBacklog = g.freeBacklog := by
  unfold returnRun
  cases handFirst g.waiters <;> rfl

/-- A run permit that is handed on moves nobody in the line. -/
@[simp] theorem map_id_returnRun (g : Gate) :
    g.returnRun.waiters.map (·.id) = g.waiters.map (·.id) := by
  have hret := returnRun_runReturn g
  generalize g.returnRun = g' at hret ⊢
  cases hret with
  | toPool => rfl
  | toFirst hg =>
      rw [hg]
      simp

theorem spend_returnRun (g : Gate) (id : Nat) :
    (g.spend id).returnRun = (g.returnRun).spend id := by
  simp only [returnRun, spend]
  cases handFirst g.waiters <;> rfl

/-- A release is a ticket that lets go and the permits that come back, the run permit first. -/
theorem release_eq {g : Gate} {t : Ticket} (ht : g.ticket? t.id = some t)
    (hp : t.run = t.backlog) :
    g.release t.id
      = if t.run then (g.spend t.id).returnRun.returnBacklog else g.spend t.id := by
  simp only [release, ht, giveBack, ← hp]
  cases t.run with
  | true =>
      rw [if_pos rfl, if_pos rfl, if_pos rfl, spend_returnRun]
      simp only [spend, tickets_returnRun]
      rfl
  | false => rfl

theorem release_of_none {g : Gate} {id : Nat} (h : g.ticket? id = none) : g.release id = g := by
  simp only [release, h]

theorem discard_eq (g : Gate) (id : Nat) : g.discard id = (g.release id).forget id := rfl

theorem abandon_of_some {g : Gate} {w : Waiter} (h : g.waiter? w.id = some w) :
    g.abandon w.id = g.leave w (.timeout true) := by
  simp only [abandon, h]

theorem abandon_of_none {g : Gate} {id : Nat} (h : g.waiter? id = none) : g.abandon id = g := by
  simp only [abandon, h]

/-! ## §2. Every operation keeps the books. -/

namespace Balanced

variable {g : Gate} {r b : Nat}

theorem leave (h : Balanced g r b) {w : Waiter} (hw : g.waiter? w.id = some w)
    (reason : Reason) : Balanced (g.leave w reason) r b := by
  have hun := h.unpark hw
  unfold Gate.leave
  cases hh : w.handed with
  | true =>
      rw [hh] at hun
      exact (hun.returnRun.returnBacklog).recordRejected reason
  | false =>
      rw [hh] at hun
      exact (hun.returnBacklog).recordRejected reason

theorem enter (h : Balanced g r b) {id : Nat} (hid : id ∉ g.ids) (now : Duration) (done : Bool) :
    Balanced (g.enter id now done).1 r b := by
  have hw : id ∉ g.waiters.map (·.id) := fun hm => hid (List.mem_append_right _ hm)
  have he := enter_entry g hw now done
  generalize g.enter id now done = out at he ⊢
  cases he with
  | ended => exact h.recordRejected _
  | full => exact h.recordRejected _
  | admitted _ hb hr => exact ((h.takeBacklog hb).takeRun hr).issue hid
  | impatient => exact h.recordRejected _
  | parked _ hb hr => exact (h.takeBacklog hb).park hid now hr

theorem resume (h : Balanced g r b) {id : Nat} {w : Waiter} (hw : g.waiter? id = some w)
    (now : Duration) (done : Bool) : Balanced (g.resume id now done).1 r b := by
  have hr := resume_resumption g hw now done
  generalize g.resume id now done = out at hr ⊢
  have hid := id_of_waiter? hw
  subst hid
  cases hr with
  | ended => exact h.leave hw _
  | admitted _ hh =>
      have hun := h.unpark hw
      rw [hh] at hun
      refine hun.issue fun hm => ?_
      -- no place is left to it, and it had no ticket
      rcases List.mem_append.mp hm with hm | hm
      · exact h.notMem_tickets (List.mem_map_of_mem (mem_of_waiter? hw)) hm
      · obtain ⟨v, hv, he⟩ := List.mem_map.mp hm
        have := (List.mem_filter.mp hv).2
        simp [he] at this
  | expired => exact h.leave hw _
  | parked => exact h

theorem abandon (h : Balanced g r b) (id : Nat) : Balanced (g.abandon id) r b := by
  cases hw : g.waiter? id with
  | none =>
      rw [abandon_of_none hw]
      exact h
  | some w =>
      have hid := id_of_waiter? hw
      subst hid
      rw [abandon_of_some hw]
      exact h.leave hw _

theorem release (h : Balanced g r b) (id : Nat) : Balanced (g.release id) r b := by
  cases ht : g.ticket? id with
  | none =>
      rw [release_of_none ht]
      exact h
  | some t =>
      have hid := id_of_ticket? ht
      subst hid
      have hp : t.run = t.backlog := h.paired t (mem_of_ticket? ht)
      have hsp := h.spend ht
      rw [← hp] at hsp
      rw [release_eq ht hp]
      cases hrun : t.run with
      | true =>
          rw [hrun] at hsp
          exact hsp.returnRun.returnBacklog
      | false =>
          rw [hrun] at hsp
          exact hsp

end Balanced

/-! ## §3. A ticket gives back what it holds once. -/

/-- After a release, whatever ticket the request has is without permits. -/
theorem isReleased_of_release {g : Gate} {id : Nat} {t : Ticket}
    (ht : t ∈ (g.release id).tickets) (hid : t.id = id) : t.isReleased = true := by
  cases h : g.ticket? id with
  | none =>
      rw [release_of_none h] at ht
      exact absurd (List.mem_map.mpr ⟨t, ht, hid⟩) (ticket?_eq_none_iff.mp h)
  | some u =>
      simp only [release, h] at ht
      obtain ⟨v, -, rfl⟩ := List.mem_map.mp ht
      by_cases hv : v.id = id
      · simp [hv, isReleased_spent]
      · simp [hv] at hid

/-- **A SECOND RELEASE CHANGES NOTHING.** -/
theorem release_of_released {g : Gate} {id : Nat}
    (h : ∀ t ∈ g.tickets, t.id = id → t.isReleased = true) : g.release id = g := by
  cases ht : g.ticket? id with
  | none => exact release_of_none ht
  | some t =>
      have hid := id_of_ticket? ht
      subst hid
      -- to spend what was spent before changes nothing
      have hspent : ∀ u ∈ g.tickets, u.id = t.id → spent u = u := by
        intro u hu he
        have := h u hu he
        simp only [Ticket.isReleased, Bool.and_eq_true, Bool.not_eq_true'] at this
        cases u
        simp_all [spent]
      have hsp : g.spend t.id = g := by
        have : g.tickets.map (fun u => if u.id == t.id then spent u else u) = g.tickets := by
          conv_rhs => rw [← List.map_id g.tickets]
          refine List.map_congr_left fun u hu => ?_
          by_cases he : u.id = t.id
          · simp [he, hspent u hu he]
          · simp [he]
        rw [spend, this]
      have hr := h t (mem_of_ticket? ht) rfl
      simp only [Ticket.isReleased, Bool.and_eq_true, Bool.not_eq_true'] at hr
      rw [release_eq ht (hr.1.trans hr.2.symm), hr.1, if_neg Bool.false_ne_true, hsp]

theorem Balanced.discard {g : Gate} {r b : Nat} (h : Balanced g r b) (id : Nat) :
    Balanced (g.discard id) r b := by
  rw [discard_eq]
  exact (h.release id).forget fun _ ht he => isReleased_of_release ht he

/-! ## §4. Who leaves the line. -/

theorem tickets_leave (g : Gate) (u : Waiter) (reason : Reason) :
    (g.leave u reason).tickets = g.tickets := by
  unfold leave
  cases u.handed with
  | true => exact tickets_returnRun _
  | false => rfl

theorem map_id_unpark (g : Gate) (id : Nat) :
    (g.unpark id).waiters.map (·.id) = (g.waiters.map (·.id)).filter (· != id) := by
  rw [List.filter_map]
  rfl

theorem map_id_leave (g : Gate) (u : Waiter) (reason : Reason) :
    (g.leave u reason).waiters.map (·.id) = (g.waiters.map (·.id)).filter (· != u.id) := by
  rw [← map_id_unpark]
  unfold leave
  cases u.handed with
  | true => exact map_id_returnRun _
  | false => rfl

theorem freeBacklog_leave (g : Gate) (u : Waiter) (reason : Reason) :
    (g.leave u reason).freeBacklog = g.freeBacklog + 1 := by
  unfold leave
  cases u.handed with
  | true =>
      show (g.unpark u.id).returnRun.freeBacklog + 1 = _
      rw [freeBacklog_returnRun]
      rfl
  | false => rfl

/-- Who leaves the line holds nothing at the gate. -/
theorem Balanced.notMem_ids_leave {g : Gate} {r b : Nat} (h : Balanced g r b) {u : Waiter}
    (hu : g.waiter? u.id = some u) (reason : Reason) : u.id ∉ (g.leave u reason).ids := by
  unfold ids
  rw [tickets_leave, map_id_leave, List.mem_append]
  rintro (ht | hw)
  · have hmem : u.id ∈ g.waiters.map (·.id) := List.mem_map_of_mem (mem_of_waiter? hu)
    exact h.notMem_tickets hmem ht
  · simp at hw

end Admission.Gate

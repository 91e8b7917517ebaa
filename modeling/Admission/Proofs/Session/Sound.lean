/-
  Admission.Proofs.Session.Sound — the invariant of a session.

  What a task holds at the gate follows from its stage: a fresh task holds nothing, a parked one has
  its place in the line, one whose handler runs has a live ticket, and one that has ended holds
  nothing, save a ticket that its caller keeps.  A DEED is what a poll or a drop makes of a task; it
  changes what the task itself holds and leaves all others alone, and so the invariant goes on.

  Main results:
    * `Sound.move`, `Sound.run` — **the invariant holds in every session that a run reaches**;
    * `Sound.onward` — what no move takes back.
-/
import Admission.Proofs.Gate.Accounting
import Admission.Proofs.Session.Turn

namespace Admission

/-! ## §1. Where an operation leaves its request. -/

namespace Gate

/-- Where a verdict leaves the request. -/
def Stands (g : Gate) (k : Nat) : Verdict → Prop
  | .admitted => (⟨k, true, true⟩ : Ticket) ∈ g.tickets
  | .rejected _ => k ∉ g.ids
  | .parked => k ∈ g.waiters.map (·.id)

theorem stands_enter {g : Gate} {k : Nat} (hk : k ∉ g.ids) (now : Duration) (done : Bool) :
    Stands (g.enter k now done).1 k (g.enter k now done).2 := by
  have hw : k ∉ g.waiters.map (·.id) := fun hm => hk (List.mem_append_right _ hm)
  have he := enter_entry g hw now done
  generalize g.enter k now done = out at he ⊢
  cases he with
  | ended | full | impatient => exact hk
  | admitted =>
      show _ ∈ g.tickets ++ [_]
      simp
  | parked =>
      show k ∈ (g.waiters ++ [_]).map _
      simp

theorem Balanced.stands_resume {g : Gate} {r b : Nat} (h : Balanced g r b) {u : Waiter}
    (hu : g.waiter? u.id = some u) (now : Duration) (done : Bool) :
    Stands (g.resume u.id now done).1 u.id (g.resume u.id now done).2 := by
  have hr := resume_resumption g hu now done
  generalize g.resume u.id now done = out at hr ⊢
  cases hr with
  | ended | expired => exact h.notMem_ids_leave hu _
  | admitted =>
      show _ ∈ g.tickets ++ [_]
      simp
  | parked => exact List.mem_map_of_mem (mem_of_waiter? hu)

/-- Who has a ticket is not parked. -/
theorem Balanced.notMem_waiters {g : Gate} {r b : Nat} (h : Balanced g r b) {t : Ticket}
    (ht : t ∈ g.tickets) : t.id ∉ g.waiters.map (·.id) :=
  fun hw => h.notMem_tickets hw (List.mem_map_of_mem ht)

theorem Follows.notMem_waiterIds {g g' : Gate} (h : Follows g g') {k : Nat}
    (hk : k ∉ g.waiters.map (·.id)) : k ∉ g'.waiters.map (·.id) := by
  intro hm
  obtain ⟨u, hu, rfl⟩ := List.mem_map.mp hm
  obtain ⟨v, hv, hid, -⟩ := h.since u hu
  exact hk (hid ▸ List.mem_map_of_mem hv)

theorem Balanced.notMem_ids_discard {g : Gate} (h : Balanced g 0 0) {t : Ticket}
    (ht : t ∈ g.tickets) : t.id ∉ (g.discard t.id).ids := by
  unfold ids
  rw [List.mem_append]
  rintro (hm | hm)
  · exact notMem_ticketIds_discard g t.id hm
  · exact (Follows.discard h t.id).notMem_waiterIds (h.notMem_waiters ht) hm

theorem Balanced.notMem_ids_abandon {g : Gate} {r b : Nat} (h : Balanced g r b) {k : Nat}
    (hk : k ∈ g.waiters.map (·.id)) : k ∉ (g.abandon k).ids := by
  cases hu : g.waiter? k with
  | none => exact absurd hk (waiter?_eq_none_iff.mp hu)
  | some u =>
      have hid := id_of_waiter? hu
      subst hid
      rw [abandon_of_some hu]
      exact h.notMem_ids_leave hu _

/-- Whoever stands in line after an operation in which nobody came stood there before. -/
theorem Follows.places_subset {g g' : Gate} (h : Follows g g') : ∀ p ∈ g'.places, p ∈ g.places := by
  intro p hp
  obtain ⟨u, hu, rfl⟩ := List.mem_map.mp hp
  obtain ⟨v, hv, hid, hs⟩ := h.since u hu
  exact List.mem_map.mpr ⟨v, hv, by rw [hid, hs]⟩

theorem places_enter (g : Gate) {k : Nat} (hk : k ∉ g.waiters.map (·.id)) (now : Duration)
    (done : Bool) : ∀ p ∈ (g.enter k now done).1.places, p ∈ g.places ∨ p = (k, now) := by
  intro p hp
  obtain ⟨u, hu, rfl⟩ := List.mem_map.mp hp
  rcases (World.enter_newcomer g hk now done).2 u hu with hu | ⟨hid, hs⟩
  · exact .inl (List.mem_map_of_mem hu)
  · exact .inr (by rw [hid, hs])

theorem counters_abandon_of_mem {g : Gate} {k : Nat} (hk : k ∈ g.waiters.map (·.id)) :
    (g.abandon k).counters = g.counters.recordRejected (.timeout true) := by
  cases hu : g.waiter? k with
  | none => exact absurd hk (waiter?_eq_none_iff.mp hu)
  | some u =>
      have hid := id_of_waiter? hu
      subst hid
      rw [abandon_of_some hu, counters_leave]

end Gate

namespace Session

open Gate (Balanced Beside Stands)

/-! ## §2. Tasks. -/

/-- The caller of this request keeps the ticket. -/
def Task.isKeeper (t : Task) : Bool :=
  match t.job with
  | .call c => c.reply = .ticket
  | _ => false

/-- Where a task stands at the gate. -/
structure Placed (g : Gate) (t : Task) : Prop where
  fresh : t.stage = .fresh → t.key ∉ g.ids
  reporting : ∀ next, t.stage = .reporting next → t.key ∉ g.ids
  parked : ∀ guards context, t.stage = .parked guards context → t.key ∈ g.waiters.map (·.id)
  running : ∀ guards todo, t.stage = .running guards todo →
    (⟨t.key, true, true⟩ : Ticket) ∈ g.tickets
  ended : t.stage = .finished → t.key ∉ g.waiters.map (·.id)
    ∧ (t.isKeeper = false → t.key ∉ g.tickets.map (·.id))

/-- A task that was never polled has no place in the line. -/
theorem Placed.notMem_waiters {g : Gate} {t : Task} (h : Placed g t) (hf : t.stage = .fresh) :
    t.key ∉ g.waiters.map (·.id) :=
  fun hm => h.fresh hf (List.mem_append_right _ hm)

/-- A task whose stage is one that its job can have. -/
structure Fit (t : Task) : Prop where
  parked : ∀ guards context, t.stage = .parked guards context → ∃ c, t.job = .call c
  running : ∀ guards todo, t.stage = .running guards todo →
    Action.announce ∉ todo ∧ ∃ c, t.job = .call c ∧ c.reply ≠ .ticket
  quiet : ∀ c, t.job = .call c → Action.announce ∉ c.script.actions.tail

/-- What is said of a task hangs on its own ticket and its own place. -/
theorem Placed.of_beside {g g' : Gate} {k : Nat} {t : Task} (h : Placed g t)
    (hb : Beside k g g') (hne : t.key ≠ k) : Placed g' t := by
  constructor
  · intro hst hm
    exact h.fresh hst ((hb.mem_ids_iff hne).mp hm)
  · intro next hst hm
    exact h.reporting next hst ((hb.mem_ids_iff hne).mp hm)
  · intro guards context hst
    exact (hb.mem_waiterIds_iff hne).mpr (h.parked guards context hst)
  · intro guards todo hst
    exact (hb.mem_tickets_iff hne).mpr (h.running guards todo hst)
  · intro hst
    obtain ⟨hw, ht⟩ := h.ended hst
    refine ⟨fun hm => hw ((hb.mem_waiterIds_iff hne).mp hm), fun hk hm => ?_⟩
    exact ht hk ((hb.mem_ticketIds_iff hne).mp hm)

section Stages

variable {g : Gate} {t : Task}

theorem placed_reporting (h : t.key ∉ g.ids) (next : Duration) :
    Placed g { t with stage := .reporting next } :=
  ⟨nofun, fun _ _ => h, nofun, nofun, nofun⟩

theorem placed_parked (guards : List Guard) (context : Option Context)
    (h : t.key ∈ g.waiters.map (·.id)) : Placed g { t with stage := .parked guards context } :=
  ⟨nofun, nofun, fun _ _ _ => h, nofun, nofun⟩

theorem placed_running (guards : List Guard) (todo : List Action)
    (h : (⟨t.key, true, true⟩ : Ticket) ∈ g.tickets) :
    Placed g { t with stage := .running guards todo } :=
  ⟨nofun, nofun, nofun, fun _ _ _ => h, nofun⟩

/-- A task that has ended, with or without a ticket that its caller keeps. -/
theorem placed_ended (hw : t.key ∉ g.waiters.map (·.id))
    (ht : t.isKeeper = false → t.key ∉ g.tickets.map (·.id)) : Placed g t.finish :=
  ⟨nofun, nofun, nofun, nofun, fun _ => ⟨hw, ht⟩⟩

/-- A task that has ended and holds nothing. -/
theorem placed_finish (h : t.key ∉ g.ids) : Placed g t.finish :=
  placed_ended (fun hm => h (List.mem_append_right _ hm))
    fun _ hm => h (List.mem_append_left _ hm)

/-- A stage that any job can have. -/
theorem Fit.of_stage (h : Fit t) {stage : Stage}
    (hst : stage = .finished ∨ ∃ next, stage = .reporting next) :
    Fit { t with stage := stage } := by
  rcases hst with rfl | ⟨next, rfl⟩
  · exact ⟨nofun, nofun, h.quiet⟩
  · exact ⟨nofun, nofun, h.quiet⟩

theorem fit_finish (h : Fit t) : Fit t.finish := h.of_stage (.inl rfl)

end Stages

/-! ## §3. Deeds. -/

/-- **WHAT A POLL OR A DROP MAKES OF A TASK** in a scene, whatever it is. -/
structure Deed (t : Task) (s : Scene) (out : Task × Scene) : Prop where
  key : out.1.key = t.key
  name : out.1.name = t.name
  job : out.1.job = t.job
  stays : t.stage = .finished → out.1.stage = .finished
  begun : out.1.stage = .fresh → t.stage = .fresh
  fit : Fit out.1
  balanced : Balanced out.2.gate 0 0
  beside : Beside t.key s.gate out.2.gate
  placed : Placed out.2.gate out.1
  /-- Nobody but the task itself can have come to the line. -/
  line : ∀ p ∈ out.2.gate.places, p ∈ s.gate.places ∨ (t.stage = .fresh ∧ p = (t.key, s.now))
  kept : out.2.kept = s.kept
  now : out.2.now = s.now
  policy : out.2.policy = s.policy
  log : ∃ es, out.2.log = s.log ++ es

section Stations

variable {t : Task} {c : Call} {s s0 : Scene} {guards : List Guard} {context : Option Context}
  {v : Verdict} {todo : List Action}

theorem exists_waiter_of_placed (hp : Placed s.gate t) (hst : t.stage = .parked guards context) :
    ∃ u, s.gate.waiter? t.key = some u := by
  have hmem := hp.parked guards context hst
  cases hu : s.gate.waiter? t.key with
  | none => exact absurd hmem (Gate.waiter?_eq_none_iff.mp hu)
  | some u => exact ⟨u, rfl⟩

/-- Asking is about the request that asks, and leaves it where the verdict says. -/
theorem Asks.effect (h : Asks t c s guards context s0 v) (hb : Balanced s.gate 0 0)
    (hp : Placed s.gate t) :
    Balanced s0.gate 0 0 ∧ Beside t.key s.gate s0.gate ∧ Stands s0.gate t.key v := by
  cases h with
  | @enters a g _ hf ha hn hg =>
      have hk := hp.fresh hf
      have hbal := hb.enter hk s.now (Task.isOver a.context { s with tokens := a.tokens })
      have hbes := Beside.enter s.gate hk s.now (Task.isOver a.context { s with tokens := a.tokens })
      have hst := Gate.stands_enter hk s.now (Task.isOver a.context { s with tokens := a.tokens })
      rw [hg] at hbal hbes hst
      exact ⟨hbal, hbes, hst⟩
  | @resumes _ _ g _ hst hd hg =>
      obtain ⟨u, hu⟩ := exists_waiter_of_placed hp hst
      have hid := Gate.id_of_waiter? hu
      have hbal := hb.resume hu s.now (Task.isOver context s)
      have hbes := Beside.resume s.gate t.key s.now (Task.isOver context s)
      have hsta := hb.stands_resume (hid.symm ▸ hu) s.now (Task.isOver context s)
      rw [hid] at hsta
      rw [hg] at hbal hbes hsta
      exact ⟨hbal, hbes, hsta⟩

/-- A guard that fires leaves its request with nothing. -/
theorem Fires.effect (h : Fires t c s s0) (hb : Balanced s.gate 0 0) (hp : Placed s.gate t) :
    Balanced s0.gate 0 0 ∧ Beside t.key s.gate s0.gate ∧ t.key ∉ s0.gate.ids := by
  cases h with
  | atOnce hf => exact ⟨hb, .refl _ _, hp.fresh hf⟩
  | @parked _ _ g hst hd =>
      have hk := hp.parked _ _ hst
      obtain ⟨metrics, he⟩ := exists_eq_abandon { s with tokens := s.tokens.cancel g.token } t.key
      rw [he]
      exact ⟨hb.abandon t.key, .abandon s.gate t.key, hb.notMem_ids_abandon hk⟩
  | running hst hd =>
      have ht := hp.running _ _ hst
      exact ⟨hb.discard t.key, .discard hb t.key, hb.notMem_ids_discard ht⟩

/-- A handler announces itself first, or not at all. -/
theorem Acts.quiet (h : Acts t c s guards todo s0) (hf : Fit t) (hc : t.job = .call c) :
    Action.announce ∉ todo.tail := by
  cases h with
  | begins => exact hf.quiet c hc
  | goesOn hst => exact fun hm => (hf.running _ _ hst).1 (List.mem_of_mem_tail hm)

/-- A handler acts while its own request holds a live ticket. -/
theorem Acts.effect (h : Acts t c s guards todo s0) (hb : Balanced s.gate 0 0)
    (hp : Placed s.gate t) (hf : Fit t) (hc : t.job = .call c) :
    Balanced s0.gate 0 0 ∧ Beside t.key s.gate s0.gate
      ∧ (⟨t.key, true, true⟩ : Ticket) ∈ s0.gate.tickets ∧ Action.announce ∉ todo.tail
      ∧ c.reply ≠ .ticket := by
  have hquiet := h.quiet hf hc
  cases h with
  | begins h hr =>
      obtain ⟨hbal, hbes, hst⟩ := h.effect hb hp
      exact ⟨hbal, hbes, hst, hquiet, hr⟩
  | goesOn hst hd =>
      obtain ⟨-, d, hd', hr⟩ := hf.running _ _ hst
      rw [hc] at hd'
      cases hd'
      exact ⟨hb, .refl _ _, hp.running _ _ hst, hquiet, hr⟩

/-- Who stands in line after a request has asked. -/
theorem Asks.line (h : Asks t c s guards context s0 v) (hp : Placed s.gate t) :
    ∀ p ∈ s0.gate.places, p ∈ s.gate.places ∨ (t.stage = .fresh ∧ p = (t.key, s.now)) := by
  cases h with
  | @enters a g _ hf ha hn hg =>
      have hl := Gate.places_enter s.gate (hp.notMem_waiters hf) s.now
        (Task.isOver a.context { s with tokens := a.tokens })
      rw [hg] at hl
      exact fun p hm => (hl p hm).imp_right fun he => ⟨hf, he⟩
  | @resumes _ _ g _ hst hd hg =>
      obtain ⟨u, hu⟩ := exists_waiter_of_placed hp hst
      have hl := (Gate.Follows.resume s.gate hu s.now (Task.isOver context s)).places_subset
      rw [hg] at hl
      exact fun p hm => .inl (hl p hm)

theorem Fires.follows (h : Fires t c s s0) (hb : Balanced s.gate 0 0) :
    Gate.Follows s.gate s0.gate := by
  cases h with
  | atOnce => exact .refl s.gate
  | @parked _ _ g hst hd =>
      obtain ⟨metrics, he⟩ := exists_eq_abandon { s with tokens := s.tokens.cancel g.token } t.key
      rw [he]
      exact .abandon s.gate t.key
  | running => exact .discard hb t.key

/-- Asking counts what it yields. -/
theorem Asks.counters (h : Asks t c s guards context s0 v) (hp : Placed s.gate t) :
    s0.gate.counters = Gate.World.counted s.gate.counters v := by
  cases h with
  | @enters a g _ hf ha hn hg =>
      have hc := Gate.World.counters_enter s.gate (hp.notMem_waiters hf) s.now
        (Task.isOver a.context { s with tokens := a.tokens })
      rw [hg] at hc
      exact hc
  | @resumes _ _ g _ hst hd hg =>
      obtain ⟨u, hu⟩ := exists_waiter_of_placed hp hst
      have hc := Gate.World.counters_resume s.gate hu s.now (Task.isOver context s)
      rw [hg] at hc
      exact hc

/-- A guard that fires counts its request as dropped if that was parked. -/
theorem Fires.counters (h : Fires t c s s0) (hb : Balanced s.gate 0 0) (hp : Placed s.gate t) :
    ((∃ guards context, t.stage = .parked guards context)
        ∧ s0.gate.counters = s.gate.counters.recordRejected (.timeout true))
      ∨ ((∀ guards context, t.stage ≠ .parked guards context)
        ∧ s0.gate.counters = s.gate.counters) := by
  cases h with
  | atOnce hf =>
      refine .inr ⟨fun guards context hst => ?_, rfl⟩
      rw [hf] at hst
      cases hst
  | @parked _ _ g hst hd =>
      obtain ⟨metrics, he⟩ := exists_eq_abandon { s with tokens := s.tokens.cancel g.token } t.key
      rw [he]
      exact .inl ⟨⟨_, _, hst⟩, Gate.counters_abandon_of_mem (hp.parked _ _ hst)⟩
  | running hst hd =>
      refine .inr ⟨fun guards context hst' => ?_, hb.counters_discard t.key⟩
      rw [hst] at hst'
      cases hst'

/-- A task that ends with nothing left at the gate. -/
theorem deed_finish (hf : Fit t) (hb : Balanced s0.gate 0 0) (hbes : Beside t.key s.gate s0.gate)
    (hk : t.key ∉ s0.gate.ids)
    (hline : ∀ p ∈ s0.gate.places, p ∈ s.gate.places ∨ (t.stage = .fresh ∧ p = (t.key, s.now)))
    (hkept : s0.kept = s.kept) (hnow : s0.now = s.now)
    (hpolicy : s0.policy = s.policy) (hlog : ∃ es, s0.log = s.log ++ es) :
    Deed t s (t.finish, s0) :=
  ⟨rfl, rfl, rfl, fun _ => rfl, nofun, fit_finish hf, hb, hbes, placed_finish hk,
    hline, hkept, hnow, hpolicy, hlog⟩

/-- A task that has been left as it is. -/
theorem deed_self (hf : Fit t) (hb : Balanced s.gate 0 0) (hp : Placed s.gate t) :
    Deed t s (t, s) :=
  ⟨rfl, rfl, rfl, id, id, hf, hb, .refl _ _, hp, fun _ => .inl, rfl, rfl, rfl, [],
    (List.append_nil _).symm⟩

/-- A handler that goes on. -/
theorem Acts.deed (h : Acts t c s guards todo s0) (hb : Balanced s.gate 0 0)
    (hp : Placed s.gate t) (hf : Fit t) (hc : t.job = .call c) :
    Deed t s (t.proceed c guards todo s0) := by
  obtain ⟨hb0, hbes, ht, hq, hr⟩ := h.effect hb hp hf hc
  have hnot := h.not_finished
  -- who is in line is settled before the handler acts
  have hline : ∀ p ∈ s0.gate.places,
      p ∈ s.gate.places ∨ (t.stage = .fresh ∧ p = (t.key, s.now)) := by
    cases h with
    | begins hask => exact hask.line hp
    | goesOn => exact fun _ => .inl
  obtain ⟨gate, tokens, metrics, rfl⟩ := h.exists_eq
  have hpro := progress_proceed t c guards { s with gate, tokens, metrics } hq
  generalize t.proceed c guards todo _ = out at hpro ⊢
  cases hpro with
  | @suspended left permits hl hq' he =>
      refine ⟨rfl, rfl, rfl, fun hst => absurd hst hnot, nofun, ⟨nofun, ?_, hf.quiet⟩, hb0, hbes,
        placed_running guards left ht, hline, rfl, rfl, rfl, _, rfl⟩
      intro guards' todo' hst
      cases hst
      exact ⟨hq', c, hc, hr⟩
  | @ended permits he =>
      exact deed_finish hf (hb0.discard t.key) (hbes.trans (.discard hb0 t.key))
        (hb0.notMem_ids_discard ht)
        (fun p hm => hline p ((Gate.Follows.discard hb0 t.key).places_subset p hm))
        rfl rfl rfl ⟨_, List.append_assoc _ _ _⟩

end Stations

/-- **A POLL IS A DEED**, if it does not leave a ticket to the caller. -/
theorem Turn.deed {t : Task} {c : Call} {s : Scene} {out : Task × Scene} (h : Turn t c s out)
    (hb : Balanced s.gate 0 0) (hp : Placed s.gate t) (hf : Fit t) (hc : t.job = .call c) :
    Deed t s out ∨ ∃ guards context s0, Asks t c s guards context s0 .admitted
      ∧ c.reply = .ticket ∧ Deed t s (t.finish, s0.record (·.recordAdmitted))
      ∧ out = (t.finish, ((s0.record (·.recordAdmitted)).keepTicket t.name t.key).emit
        (.admitted t.name)) := by
  cases h with
  | idle => exact .inl (deed_self hf hb hp)
  | late h =>
      obtain ⟨hb0, hbes, hk⟩ := h.effect hb hp
      have hsub := (h.follows hb).places_subset
      obtain ⟨gate, tokens, metrics, rfl⟩ := h.exists_eq
      exact .inl (deed_finish hf hb0 hbes hk (fun p hm => .inl (hsub p hm)) rfl rfl rfl ⟨_, rfl⟩)
  | @parks guards context s0 h =>
      obtain ⟨hb0, hbes, hst⟩ := h.effect hb hp
      have hnot := h.not_finished
      have hline := h.line hp
      obtain ⟨gate, tokens, rfl⟩ := h.exists_eq
      exact .inl ⟨rfl, rfl, rfl, fun hfin => absurd hfin hnot, nofun,
        ⟨fun _ _ _ => ⟨c, hc⟩, nofun, hf.quiet⟩, hb0, hbes, placed_parked guards context hst,
        hline, rfl, rfl, rfl, [], (List.append_nil _).symm⟩
  | refused h =>
      obtain ⟨hb0, hbes, hk⟩ := h.effect hb hp
      have hline := h.line hp
      obtain ⟨gate, tokens, rfl⟩ := h.exists_eq
      exact .inl (deed_finish hf hb0 hbes hk hline rfl rfl rfl ⟨_, rfl⟩)
  | keeps h hr =>
      -- the ticket stays behind when the task ends, as it is a keeper's
      obtain ⟨hb0, hbes, hst⟩ := h.effect hb hp
      have hask := h
      have hline := h.line hp
      obtain ⟨gate, tokens, rfl⟩ := h.exists_eq
      have hkeeper : t.isKeeper = true := by
        unfold Task.isKeeper
        rw [hc]
        simp [hr]
      refine .inr ⟨_, _, _, hask, hr, ⟨rfl, rfl, rfl, fun _ => rfl, nofun, fit_finish hf, hb0, hbes,
        placed_ended (hb0.notMem_waiters hst) ?_, hline, rfl, rfl, rfl, [],
        (List.append_nil _).symm⟩, rfl⟩
      intro hn
      rw [hkeeper] at hn
      cases hn
  | acts h => exact .inl (h.deed hb hp hf hc)

/-- A task that does not concern the gate holds nothing there. -/
theorem Placed.notMem_ids {g : Gate} {t : Task} (hp : Placed g t) (hf : Fit t)
    (h : ∀ c, t.job ≠ .call c) : t.key ∉ g.ids := by
  cases hst : t.stage with
  | fresh => exact hp.fresh hst
  | reporting next => exact hp.reporting next hst
  | parked guards context =>
      obtain ⟨c, hc⟩ := hf.parked guards context hst
      exact absurd hc (h c)
  | running guards todo =>
      obtain ⟨-, c, hc, -⟩ := hf.running guards todo hst
      exact absurd hc (h c)
  | finished =>
      obtain ⟨hw, ht⟩ := hp.ended hst
      have hkeeper : t.isKeeper = false := by
        unfold Task.isKeeper
        split
        next c hc => exact absurd hc (h c)
        next => rfl
      intro hm
      rcases List.mem_append.mp hm with hm | hm
      · exact ht hkeeper hm
      · exact hw hm

theorem Aside.deed {t : Task} {s : Scene} {out : Task × Scene} (h : Aside t s out)
    (hb : Balanced s.gate 0 0) (hp : Placed s.gate t) (hf : Fit t) (hj : ∀ c, t.job ≠ .call c)
    (hn : t.stage ≠ .finished) : Deed t s out := by
  have hk := hp.notMem_ids hf hj
  have hsilent : ∃ es, s.log = s.log ++ es := ⟨[], (List.append_nil _).symm⟩
  cases h with
  | still => exact deed_self hf hb hp
  | answers | sees => exact deed_finish hf hb (.refl _ _) hk (fun _ => .inl) rfl rfl rfl ⟨_, rfl⟩
  | leaves => exact deed_finish hf hb (.refl _ _) hk (fun _ => .inl) rfl rfl rfl hsilent
  | reports next =>
      exact ⟨rfl, rfl, rfl, fun hst => absurd hst hn, nofun, hf.of_stage (.inr ⟨next, rfl⟩), hb,
        .refl _ _, placed_reporting hk next, fun _ => .inl, rfl, rfl, rfl, hsilent⟩

theorem finish_of_finished {t : Task} (h : t.stage = .finished) : t.finish = t := by
  cases t
  cases h
  rfl

/-- **A DROP IS A DEED.** -/
theorem deed_abort {t : Task} {s : Scene} (hb : Balanced s.gate 0 0) (hp : Placed s.gate t)
    (hf : Fit t) : Deed t s (t.abort s) := by
  have hsilent : ∃ es, s.log = s.log ++ es := ⟨[], (List.append_nil _).symm⟩
  unfold Task.abort
  -- a request that waits gives up its place, one that runs its ticket; the others have neither
  cases hst : t.stage with
  | fresh =>
      exact deed_finish hf hb (.refl _ _) (hp.fresh hst) (fun _ => .inl) rfl rfl rfl hsilent
  | reporting next =>
      exact deed_finish hf hb (.refl _ _) (hp.reporting next hst) (fun _ => .inl) rfl rfl rfl hsilent
  | finished =>
      rw [finish_of_finished hst]
      exact deed_self hf hb hp
  | parked guards context =>
      obtain ⟨metrics, he⟩ := exists_eq_abandon s t.key
      show Deed t s (t.finish, s.abandon t.key)
      rw [he]
      exact deed_finish hf (hb.abandon t.key) (.abandon s.gate t.key)
        (hb.notMem_ids_abandon (hp.parked guards context hst))
        (fun p hm => .inl ((Gate.Follows.abandon s.gate t.key).places_subset p hm)) rfl rfl rfl hsilent
  | running guards todo =>
      exact deed_finish hf (hb.discard t.key) (.discard hb t.key)
        (hb.notMem_ids_discard (hp.running guards todo hst))
        (fun p hm => .inl ((Gate.Follows.discard hb t.key).places_subset p hm)) rfl rfl rfl hsilent

/-! ## §4. The invariant. -/

/-- **THE INVARIANT OF A SESSION.** -/
structure Sound (x : Session) : Prop where
  balanced : Balanced x.scene.gate 0 0
  /-- The number of a task is its place. -/
  keyed : ∀ (k : Nat) (t : Task), x.tasks[k]? = some t → t.key = k
  fit : ∀ t ∈ x.tasks, Fit t
  placed : ∀ t ∈ x.tasks, Placed x.scene.gate t
  known : ∀ i ∈ x.scene.gate.ids, i < x.tasks.length
  /-- A ticket that a caller keeps is that of a request which has ended. -/
  kept : ∀ p ∈ x.scene.kept, ∃ t, x.tasks[p.2]? = some t ∧ t.stage = .finished
    ∧ t.isKeeper = true

namespace Sound

variable {x : Session}

/-- Contexts, tokens, permits, figures and the log are of no account. -/
theorem congr (h : x.Sound) {y : Session} (ht : y.tasks = x.tasks)
    (hg : y.scene.gate = x.scene.gate) (hk : ∀ p ∈ y.scene.kept, p ∈ x.scene.kept) :
    y.Sound := by
  constructor
  case balanced => exact hg ▸ h.balanced
  case keyed => exact ht ▸ h.keyed
  case fit => exact ht ▸ h.fit
  case placed =>
    rw [ht, hg]
    exact h.placed
  case known =>
    rw [ht, hg]
    exact h.known
  case kept =>
    rw [ht]
    exact fun p hp => h.kept p (hk p hp)

/-- **A DEED KEEPS THE INVARIANT.** -/
theorem deed (h : x.Sound) {k : Nat} {t : Task} (hk : x.tasks[k]? = some t)
    {out : Task × Scene} (hd : Deed t x.scene out) :
    Sound { x with tasks := x.tasks.set k out.1, scene := out.2 } := by
  have hkey := h.keyed k t hk
  have hlt : k < x.tasks.length := (List.getElem?_eq_some_iff.mp hk).1
  have hself : (x.tasks.set k out.1)[k]? = some out.1 := List.getElem?_set_self hlt
  have hother : ∀ j, j ≠ k → (x.tasks.set k out.1)[j]? = x.tasks[j]? :=
    fun j hj => List.getElem?_set_ne (Ne.symm hj)
  have hbes := hkey ▸ hd.beside
  constructor
  case balanced => exact hd.balanced
  case keyed =>
    intro j u hj
    by_cases he : j = k
    · subst he
      rw [hself] at hj
      cases hj
      rw [hd.key, hkey]
    · rw [hother j he] at hj
      exact h.keyed j u hj
  case fit =>
    intro u hu
    rcases mem_set_cases hu with rfl | ⟨j, -, hj⟩
    · exact hd.fit
    · exact h.fit u (List.mem_of_getElem? hj)
  case placed =>
    -- a deed is done beside all other tasks, and their keys tell them apart
    intro u hu
    rcases mem_set_cases hu with rfl | ⟨j, hne, hj⟩
    · exact hd.placed
    · have hne : u.key ≠ k := by
        rw [h.keyed j u hj]
        exact hne
      exact (h.placed u (List.mem_of_getElem? hj)).of_beside hbes hne
  case known =>
    intro i hi
    show i < (x.tasks.set k out.1).length
    rw [List.length_set]
    by_cases he : i = k
    · rw [he]
      exact hlt
    · exact h.known i ((hbes.mem_ids_iff he).mp hi)
  case kept =>
    intro p hp
    rw [hd.kept] at hp
    obtain ⟨u, hu, hst, hkeeper⟩ := h.kept p hp
    by_cases he : p.2 = k
    · rw [he, hk] at hu
      cases hu
      refine ⟨out.1, he ▸ hself, hd.stays hst, ?_⟩
      unfold Task.isKeeper
      rw [hd.job]
      exact hkeeper
    · exact ⟨u, (hother p.2 he).trans hu, hst, hkeeper⟩

/-- What is done with a ticket that a caller keeps. -/
theorem onKept (h : x.Sound) {name : String} {key : Nat} (hl : (name, key) ∈ x.scene.kept)
    {g : Gate} (hb : Balanced g 0 0) (hbes : Beside key x.scene.gate g)
    (hf : Gate.Follows x.scene.gate g) : Sound { x with scene := { x.scene with gate := g } } := by
  obtain ⟨t, ht, hst, hkeeper⟩ := h.kept _ hl
  refine ⟨hb, h.keyed, h.fit, ?_, fun i hi => h.known i (hf.ids i hi), h.kept⟩
  intro u hu
  obtain ⟨j, hj⟩ := List.mem_iff_getElem?.mp hu
  by_cases he : j = key
  · subst he
    rw [ht] at hj
    cases hj
    have hw := ((h.placed t (List.mem_of_getElem? ht)).ended hst).1
    rw [← finish_of_finished hst]
    refine placed_ended (hf.notMem_waiterIds hw) fun hn => ?_
    rw [hkeeper] at hn
    cases hn
  · have hne : u.key ≠ key := by
      rw [h.keyed j u hj]
      exact he
    exact (h.placed u (List.mem_of_getElem? hj)).of_beside hbes hne

theorem discardKept (h : x.Sound) {name : String} {key : Nat}
    (hl : (name, key) ∈ x.scene.kept) : Sound { x with scene := x.scene.discardTicket key } :=
  h.onKept hl (h.balanced.discard key) (.discard h.balanced key) (.discard h.balanced key)

theorem releaseKept (h : x.Sound) {name : String} {key : Nat}
    (hl : (name, key) ∈ x.scene.kept) :
    Sound { x with scene := { x.scene with gate := x.scene.gate.release key } } :=
  h.onKept hl (h.balanced.release key) (.release h.balanced key) (.release h.balanced key)

theorem mem_assign {α : Type} {name : String} {a : α} {p : String × α} :
    ∀ {l : List (String × α)}, p ∈ Scene.assign name a l → p = (name, a) ∨ p ∈ l
  | [], hp => .inl (List.mem_singleton.mp hp)
  | (n, v) :: rest, hp => by
      unfold Scene.assign at hp
      split at hp
      next hn =>
        rcases List.mem_cons.mp hp with rfl | hp
        · exact .inl (by rw [hn])
        · exact .inr (List.mem_cons_of_mem _ hp)
      next =>
        rcases List.mem_cons.mp hp with rfl | hp
        · exact .inr List.mem_cons_self
        · exact (mem_assign hp).imp_right (List.mem_cons_of_mem _)

/-- A ticket that is left to the caller takes the place of the one that was kept there. -/
theorem keepTicket_eq (s : Scene) (name : String) (key : Nat) :
    s.keepTicket name key = { s with kept := Scene.assign name key s.kept }
      ∨ ∃ old, s.kept.lookup name = some old
        ∧ s.keepTicket name key
          = { s.discardTicket old with kept := Scene.assign name key s.kept } := by
  unfold Scene.keepTicket
  cases hl : s.kept.lookup name with
  | none => exact .inl rfl
  | some old => exact .inr ⟨old, rfl, rfl⟩

theorem keepTicket (h : x.Sound) {t : Task} (ht : x.tasks[t.key]? = some t)
    (hst : t.stage = .finished) (hkeeper : t.isKeeper = true) (name : String) :
    Sound { x with scene := x.scene.keepTicket name t.key } := by
  have hassign : ∀ p ∈ Scene.assign name t.key x.scene.kept, ∃ u, x.tasks[p.2]? = some u
      ∧ u.stage = .finished ∧ u.isKeeper = true := by
    intro p hp
    rcases mem_assign hp with rfl | hp
    · exact ⟨t, ht, hst, hkeeper⟩
    · exact h.kept p hp
  rcases keepTicket_eq x.scene name t.key with he | ⟨old, hl, he⟩
  · rw [he]
    exact ⟨h.balanced, h.keyed, h.fit, h.placed, h.known, hassign⟩
  · have h' := h.discardKept (mem_of_lookup hl)
    rw [he]
    exact ⟨h'.balanced, h'.keyed, h'.fit, h'.placed, h'.known, hassign⟩

/-- A task comes. -/
theorem addTask (h : x.Sound) (name : String) {job : Job} (hj : Admissible x job) :
    (x.addTask name job).Sound := by
  -- the newcomer's number is one that the gate has not seen
  have hnew : x.tasks.length ∉ x.scene.gate.ids := fun hm => Nat.lt_irrefl _ (h.known _ hm)
  have hmem : ∀ u ∈ (x.addTask name job).tasks,
      u ∈ x.tasks ∨ u = ⟨x.tasks.length, name, job, .fresh⟩ := by
    intro u hu
    rcases List.mem_append.mp hu with hu | hu
    · exact .inl hu
    · exact .inr (List.mem_singleton.mp hu)
  constructor
  case balanced => exact h.balanced
  case keyed =>
    intro k u hk
    by_cases hlt : k < x.tasks.length
    · have hold : (x.tasks ++ [⟨x.tasks.length, name, job, .fresh⟩])[k]? = some u := hk
      rw [List.getElem?_append_left hlt] at hold
      exact h.keyed k u hold
    · obtain ⟨hlt', he⟩ := List.getElem?_eq_some_iff.mp hk
      have hlen : (x.addTask name job).tasks.length = x.tasks.length + 1 := by
        show (x.tasks ++ [_]).length = _
        rw [List.length_append, List.length_singleton]
      have hk' : k = x.tasks.length := by omega
      subst hk'
      have hlast : (x.tasks ++ [⟨x.tasks.length, name, job, .fresh⟩])[x.tasks.length]? = some u :=
        hk
      rw [List.getElem?_concat_length] at hlast
      cases hlast
      rfl
  case fit =>
    intro u hu
    rcases hmem u hu with hu | rfl
    · exact h.fit u hu
    · exact ⟨nofun, nofun, hj.quiet⟩
  case placed =>
    intro u hu
    rcases hmem u hu with hu | rfl
    · exact h.placed u hu
    · exact ⟨fun _ => hnew, nofun, nofun, nofun, nofun⟩
  case known =>
    intro i hi
    show i < (x.tasks ++ [_]).length
    rw [List.length_append]
    exact Nat.lt_add_right _ (h.known i hi)
  case kept =>
    intro p hp
    obtain ⟨u, hu, hst, hkeeper⟩ := h.kept p hp
    exact ⟨u, getElem?_addTask hu name job, hst, hkeeper⟩

/-! ## §5. Moves and runs. -/

/-- A poll of a task is a deed, after which the task may leave its ticket to the caller. -/
theorem polled (h : x.Sound) {k : Nat} {t : Task}
    (hk : x.tasks[k]? = some t) :
    Deed t x.scene (t.poll x.scene) ∨ ∃ c guards context s0, t.job = .call c
      ∧ Asks t c x.scene guards context s0 .admitted ∧ c.reply = .ticket
      ∧ Deed t x.scene (t.finish, s0.record (·.recordAdmitted))
      ∧ t.poll x.scene = (t.finish, ((s0.record (·.recordAdmitted)).keepTicket t.name t.key).emit
        (.admitted t.name)) := by
  have hmem := List.mem_of_getElem? hk
  have hp := h.placed t hmem
  have hf := h.fit t hmem
  rcases call_or_not t with ⟨c, hc⟩ | hj
  · rcases (turn_poll hc x.scene).deed h.balanced hp hf hc with hd | hkeep
    · exact .inl hd
    · obtain ⟨guards, context, s0, hask, hr, hd, he⟩ := hkeep
      exact .inr ⟨c, guards, context, s0, hc, hask, hr, hd, he⟩
  · by_cases hn : t.stage = .finished
    · rw [poll_of_finished hn]
      exact .inl (deed_self hf h.balanced hp)
    · exact .inl ((aside_poll hj x.scene).deed h.balanced hp hf hj hn)

/-- A poll keeps the invariant. -/
theorem poll (h : x.Sound) {k : Nat} {t : Task} (hk : x.tasks[k]? = some t) :
    (x.onTask k Task.poll).Sound := by
  rw [onTask_of_some hk]
  rcases h.polled hk with hd | ⟨c, guards, context, s0, hc, -, hr, hd, he⟩
  · exact h.deed hk hd
  · -- the task ends, and then its ticket is left to the caller
    have hself : (x.tasks.set k t.finish)[t.finish.key]? = some t.finish := by
      rw [show t.finish.key = k from h.keyed k t hk]
      exact List.getElem?_set_self (List.getElem?_eq_some_iff.mp hk).1
    have hkeeper : t.finish.isKeeper = true := by
      unfold Task.isKeeper
      rw [show t.finish.job = .call c from hc]
      simp [hr]
    have hsound := (h.deed hk hd).keepTicket hself rfl hkeeper t.name
    rw [he]
    exact hsound.congr rfl rfl fun _ hp => hp

/-- A command keeps the invariant. -/
theorem order (h : x.Sound) {y : Session} (ho : Order x y) : y.Sound := by
  cases ho with
  | idle => exact h
  | @dropped k t hk =>
      have hmem := List.mem_of_getElem? hk
      rw [onTask_of_some hk]
      exact h.deed hk (deed_abort h.balanced (h.placed t hmem) (h.fit t hmem))
  | came name hj => exact h.addTask name hj
  | contextMade => exact h.congr rfl rfl fun _ hp => hp
  | cancelled => exact h.congr rfl rfl fun _ hp => hp
  | permitted => exact h.congr rfl rfl fun _ hp => hp
  | released hl => exact h.releaseKept (mem_of_lookup hl)
  | discarded hl =>
      have hd := h.discardKept (mem_of_lookup hl)
      exact hd.congr rfl rfl fun _ hp => (List.mem_filter.mp hp).1

/-- **ONE MOVE KEEPS THE INVARIANT.** -/
theorem move (h : x.Sound) (m : Move) : (x.move m).Sound := by
  have hc := change x m
  generalize x.move m = y at hc ⊢
  cases hc with
  | polled hk => exact h.poll hk
  | ordered ho => exact h.order ho
  | ticked ms => exact h.congr rfl rfl fun _ hp => hp

/-- **A WHOLE RUN KEEPS THE INVARIANT.** -/
theorem run (h : x.Sound) (ms : List Move) : (x.run ms).Sound := by
  induction ms generalizing x with
  | nil => exact h
  | cons m ms ih => exact ih (h.move m)

end Sound

/-! ## §6. What no move takes back. -/

/-- What has become of a task: it is still there for the same, it does not start anew, and if it had
ended, so it stays. -/
structure Heir (t u : Task) : Prop where
  key : u.key = t.key
  name : u.name = t.name
  job : u.job = t.job
  stays : t.stage = .finished → u.stage = .finished
  begun : u.stage = .fresh → t.stage = .fresh

theorem Heir.refl (t : Task) : Heir t t := ⟨rfl, rfl, rfl, id, id⟩

theorem Heir.trans {t u v : Task} (h : Heir t u) (h' : Heir u v) : Heir t v :=
  ⟨h'.key.trans h.key, h'.name.trans h.name, h'.job.trans h.job, fun ho => h'.stays (h.stays ho),
    fun hf => h.begun (h'.begun hf)⟩

/-- **`y` COMES AFTER `x`**: the terms are the same, time has not gone back, and no task has been
taken away. -/
structure Onward (x y : Session) : Prop where
  limit : y.scene.gate.limit = x.scene.gate.limit
  capacity : y.scene.gate.capacity = x.scene.gate.capacity
  wait : y.scene.gate.wait = x.scene.gate.wait
  policy : y.scene.policy = x.scene.policy
  site : y.site = x.site
  now : x.scene.now ≤ y.scene.now
  heir : ∀ (k : Nat) (t : Task), x.tasks[k]? = some t → ∃ u, y.tasks[k]? = some u ∧ Heir t u

namespace Onward

variable {x y z : Session}

theorem refl (x : Session) : Onward x x :=
  ⟨rfl, rfl, rfl, rfl, rfl, Nat.le_refl _, fun _ t ht => ⟨t, ht, .refl t⟩⟩

theorem trans (h : Onward x y) (h' : Onward y z) : Onward x z := by
  refine ⟨h'.limit.trans h.limit, h'.capacity.trans h.capacity, h'.wait.trans h.wait,
    h'.policy.trans h.policy, h'.site.trans h.site, Nat.le_trans h.now h'.now, fun k t ht => ?_⟩
  obtain ⟨u, hu, hut⟩ := h.heir k t ht
  obtain ⟨v, hv, hvu⟩ := h'.heir k u hu
  exact ⟨v, hv, hut.trans hvu⟩

/-- The tasks are the same. -/
theorem of_tasks (ht : y.tasks = x.tasks) {k : Nat} (hb : Beside k x.scene.gate y.scene.gate)
    (hp : y.scene.policy = x.scene.policy) (hs : y.site = x.site)
    (hn : x.scene.now ≤ y.scene.now) : Onward x y :=
  ⟨hb.limit, hb.capacity, hb.wait, hp, hs, hn, fun _ t hk => ⟨t, ht ▸ hk, .refl t⟩⟩

theorem of_deed {k : Nat} {t : Task} (hk : x.tasks[k]? = some t) {out : Task × Scene}
    (hd : Deed t x.scene out) :
    Onward x { x with tasks := x.tasks.set k out.1, scene := out.2 } := by
  refine ⟨hd.beside.limit, hd.beside.capacity, hd.beside.wait, hd.policy, rfl,
    Nat.le_of_eq (congrArg Duration.nanos hd.now.symm), fun j u hj => ?_⟩
  by_cases he : j = k
  · subst he
    rw [hk] at hj
    cases hj
    refine ⟨out.1, List.getElem?_set_self (List.getElem?_eq_some_iff.mp hk).1, ?_⟩
    exact ⟨hd.key, hd.name, hd.job, hd.stays, hd.begun⟩
  · exact ⟨u, (List.getElem?_set_ne (Ne.symm he)).trans hj, .refl u⟩

theorem keepTicket (h : x.Sound) (name : String) (key : Nat) :
    Onward x { x with scene := x.scene.keepTicket name key } := by
  rcases Sound.keepTicket_eq x.scene name key with he | ⟨old, -, he⟩
  · rw [he]
    exact of_tasks rfl (.refl 0 _) rfl rfl (Nat.le_refl _)
  · rw [he]
    exact of_tasks rfl (.discard h.balanced old) rfl rfl (Nat.le_refl _)

end Onward

namespace Sound

variable {x : Session}

theorem onward_poll (h : x.Sound) {k : Nat} {t : Task} (hk : x.tasks[k]? = some t) :
    Onward x (x.onTask k Task.poll) := by
  rw [onTask_of_some hk]
  rcases h.polled hk with hd | ⟨c, guards, context, s0, hc, -, hr, hd, he⟩
  · exact .of_deed hk hd
  · have hkeep := Onward.keepTicket (h.deed hk hd) t.name t.key
    rw [he]
    exact (Onward.of_deed hk hd).trans
      ⟨hkeep.limit, hkeep.capacity, hkeep.wait, hkeep.policy, hkeep.site, hkeep.now, hkeep.heir⟩

theorem onward_order (h : x.Sound) {y : Session} (ho : Order x y) : Onward x y := by
  cases ho with
  | idle => exact .refl x
  | @dropped k t hk =>
      have hmem := List.mem_of_getElem? hk
      rw [onTask_of_some hk]
      exact .of_deed hk (deed_abort h.balanced (h.placed t hmem) (h.fit t hmem))
  | @came name job hj =>
      exact ⟨rfl, rfl, rfl, rfl, rfl, Nat.le_refl _,
        fun k t hk => ⟨t, getElem?_addTask hk name job, .refl t⟩⟩
  | contextMade | cancelled | permitted => exact .of_tasks rfl (.refl 0 _) rfl rfl (Nat.le_refl _)
  | @released name key _ =>
      exact .of_tasks rfl (.release h.balanced key) rfl rfl (Nat.le_refl _)
  | @discarded name key _ =>
      exact .of_tasks rfl (.discard h.balanced key) rfl rfl (Nat.le_refl _)

/-- **NO MOVE TAKES BACK** the terms of the gate, time, or a task. -/
theorem onward (h : x.Sound) (m : Move) : Onward x (x.move m) := by
  have hc := change x m
  generalize x.move m = y at hc ⊢
  cases hc with
  | polled hk => exact h.onward_poll hk
  | ordered ho => exact h.onward_order ho
  | ticked => exact .of_tasks rfl (.refl 0 _) rfl rfl (Nat.le_add_right _ _)

theorem onward_run (h : x.Sound) (ms : List Move) : Onward x (x.run ms) := by
  induction ms generalizing x with
  | nil => exact .refl x
  | cons m ms ih => exact (h.onward m).trans (ih (h.move m))

end Sound

/-- A session over an accepted gate, at its start. -/
theorem ofGate_sound {o : Options} {g : Gate} (h : Gate.ofOptions o = .ok g) (policy : Policy)
    (site : Site) (metrics : Option Metrics) : (ofGate g policy site metrics).Sound := by
  have hg := Gate.World.eq_of_ofOptions h
  subst hg
  have hw := Gate.World.ofGate_sound o.limit.toNat (o.limit.toNat + o.backlogLimit.toNat) o.wait
  have hempty : ∀ k : Nat, ([] : List Task)[k]? = none := fun k => List.getElem?_nil
  refine ⟨hw.balanced, ?_, ?_, ?_, hw.known, ?_⟩
  · intro k t ht
    rw [show (ofGate _ policy site metrics).tasks = [] from rfl, hempty] at ht
    cases ht
  · intro t ht
    cases ht
  · intro t ht
    cases ht
  · intro p hp
    cases hp

end Session

end Admission

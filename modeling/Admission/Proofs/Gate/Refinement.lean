/-
  Admission.Proofs.Gate.Refinement — the gate refines the specification's atomic machine.

  The first poll of a call asks the machine for admission; a later poll, a release, a drop and an
  abandonment take a call out of it or leave it as it is.  That a run permit was handed to a call
  which has not been polled since is not seen from the machine: it runs there already.

  Main results:
    * `Balanced.machine_enter` — a first poll is a question to the machine, with its answer;
    * `Sound.step_refines` — one step of a gate is one step of the machine;
    * `gate_refines_machine` — **the refinement**, in every reachable world.
-/
import Admission.Proofs.Gate.Machine

namespace Admission

/-! ## §1. Asking for admission. -/

/-- The policy lets a request wait at all. -/
def BacklogWait.isPatient : BacklogWait → Bool
  | .upTo d => decide (0 < d.nanos)
  | .unbounded => true

theorem BacklogWait.isPatient_eq_false_iff (w : BacklogWait) :
    w.isPatient = false ↔ w = .upTo .zero := by
  cases w with
  | unbounded => simp [isPatient]
  | upTo d =>
      obtain ⟨n⟩ := d
      simp [isPatient, Duration.zero]

/-- A wait is over in the instant of its beginning only if there is to be no wait. -/
theorem BacklogWait.expired_self (w : BacklogWait) (now : Duration) :
    w.expired now now = !w.isPatient := by
  cases w with
  | unbounded => rfl
  | upTo d =>
      have hdue := Timer.due_after_self_iff now d
      show decide (Timer.Due (Timer.after now d) now) = !decide (0 < d.nanos)
      by_cases hd : 0 < d.nanos
      · rw [decide_eq_true hd, decide_eq_false (mt hdue.mp (Nat.ne_of_gt hd))]
        rfl
      · rw [decide_eq_false hd, decide_eq_true (hdue.mpr (Nat.eq_zero_of_not_pos hd))]
        rfl

namespace Gate

namespace Machine

/-- The answer to a request that asks for admission. -/
def answer (limit capacity : Nat) (m : Machine) (patient : Bool) : Verdict :=
  if m.size = capacity then .rejected .capacity
  else if m.running.card < limit then .admitted
  else if patient then .parked
  else .rejected (.timeout false)

variable {limit capacity : Nat} {m : Machine} {patient : Bool}

theorem answer_eq_capacity_iff :
    m.answer limit capacity patient = .rejected .capacity ↔ m.size = capacity := by
  unfold answer
  split
  next hs => simp [hs]
  next hs =>
    simp only [hs, iff_false]
    split
    · simp
    · split <;> simp

theorem answer_eq_admitted_iff (hle : m.size ≤ capacity) :
    m.answer limit capacity patient = .admitted ↔ m.size < capacity ∧ m.running.card < limit := by
  unfold answer
  split
  next hs => simp [hs]
  next hs =>
    have hlt : m.size < capacity := by omega
    split
    next hc => simp [hlt, hc]
    next hc => split <;> simp [hc]

theorem answer_of_full (hlt : m.size < capacity) (hc : ¬ m.running.card < limit) :
    m.answer limit capacity patient = if patient then .parked else .rejected (.timeout false) := by
  rw [answer, if_neg (Nat.ne_of_lt hlt), if_neg hc]

theorem ask_of_full (hlt : m.size < capacity) (hc : ¬ m.running.card < limit) (id : Nat) :
    m.ask limit capacity id true = ⟨m.running, m.queue ++ [id]⟩ := by
  rw [ask, if_neg (Nat.ne_of_lt hlt), if_neg hc, if_pos rfl]

end Machine

theorem machine_issue (g : Gate) (id : Nat) :
    (g.issue id).machine = ⟨insert id g.machine.running, g.machine.queue⟩ := by
  show Machine.mk _ _ = Machine.mk _ _
  congr 1
  ext i
  simp [Gate.issue, live, promised, machine, Ticket.isReleased, List.filter_append]

theorem machine_park (g : Gate) (id : Nat) (now : Duration) :
    (g.park id now).machine = ⟨g.machine.running, g.machine.queue ++ [id]⟩ := by
  simp [Gate.park, live, promised, line, machine, List.filter_append]

/-- **THE FIRST POLL OF A REQUEST IS THE MACHINE'S ANSWER.** -/
theorem Balanced.machine_enter {g : Gate} (h : Balanced g 0 0) {id : Nat} (hid : id ∉ g.ids)
    (now : Duration) :
    (g.enter id now false).1.machine = g.machine.ask g.limit g.capacity id g.wait.isPatient
      ∧ (g.enter id now false).2 = g.machine.answer g.limit g.capacity g.wait.isPatient := by
  have hw : id ∉ g.waiters.map (·.id) := fun hm => hid (List.mem_append_right _ hm)
  have he := enter_entry g hw now false
  generalize g.enter id now false = out at he ⊢
  unfold Machine.ask Machine.answer
  -- the gate counts free permits where the machine counts those that are taken
  cases he with
  | ended hd => cases hd
  | full _ hb =>
      rw [if_pos (h.freeBacklog_eq_zero_iff.mp hb), if_pos (h.freeBacklog_eq_zero_iff.mp hb)]
      exact ⟨rfl, rfl⟩
  | admitted _ hb hr =>
      have hsize := mt h.freeBacklog_eq_zero_iff.mpr (Nat.ne_of_gt hb)
      have hcard := h.freeRun_pos_iff.mp hr
      rw [if_neg hsize, if_neg hsize, if_pos hcard, if_pos hcard, machine_issue]
      exact ⟨rfl, rfl⟩
  | impatient _ hb hr hx =>
      have hsize := mt h.freeBacklog_eq_zero_iff.mpr (Nat.ne_of_gt hb)
      have hcard : ¬ g.machine.running.card < g.limit :=
        fun hc => Nat.ne_of_gt (h.freeRun_pos_iff.mpr hc) hr
      have hp : ¬ g.wait.isPatient = true := by
        rw [BacklogWait.expired_self] at hx
        simpa using hx
      rw [if_neg hsize, if_neg hsize, if_neg hcard, if_neg hcard, if_neg hp, if_neg hp]
      exact ⟨rfl, rfl⟩
  | parked _ hb hr hx =>
      have hsize := mt h.freeBacklog_eq_zero_iff.mpr (Nat.ne_of_gt hb)
      have hcard : ¬ g.machine.running.card < g.limit :=
        fun hc => Nat.ne_of_gt (h.freeRun_pos_iff.mpr hc) hr
      have hp : g.wait.isPatient = true := by
        rw [BacklogWait.expired_self] at hx
        simpa using hx
      rw [if_neg hsize, if_neg hsize, if_neg hcard, if_neg hcard, if_pos hp, if_pos hp,
        machine_park]
      exact ⟨rfl, rfl⟩

/-! ## §2. The refinement. -/

namespace World

/-- What an action means to the machine: a call that is turned away later, or whose ticket is
released or dropped, or that is dropped itself, leaves; a call that takes up what it was handed,
and all that happens around the gate, means nothing to it. -/
def event (w : World) : Action → Machine.Event
  | .arrive c =>
      if c.isDone w.tokens w.now then .idle else .ask w.calls.length w.gate.wait.isPatient
  | .poll id =>
      match (w.step (.poll id)).2 with
      | some (.rejected _) => .leave id
      | _ => .idle
  | .release id | .discard id => if (w.gate.ticket? id).isSome then .leave id else .idle
  | .abandon id => if (w.gate.waiter? id).isSome then .leave id else .idle
  | .cancel _ | .advance _ => .idle

theorem Sound.refines_poll {w : World} (h : w.Sound) (id : Nat) :
    (w.step (.poll id)).1.gate.machine
      = w.gate.machine.step w.gate.limit w.gate.capacity (w.event (.poll id)) := by
  simp only [event, World.step]
  cases hw : w.gate.waiter? id with
  | none => rfl
  | some u =>
      have hid := id_of_waiter? hw
      subst hid
      have hr := resume_resumption w.gate hw w.now (w.isOver u.id)
      simp only
      generalize w.gate.resume u.id w.now (w.isOver u.id) = out at hr ⊢
      cases hr with
      | ended => exact h.balanced.machine_leave hw _
      | admitted _ hh => exact h.balanced.machine_takeUp hw hh
      | expired => exact h.balanced.machine_leave hw _
      | parked => rfl

theorem Sound.refines_release {w : World} (h : w.Sound) (id : Nat) :
    (w.gate.release id).machine
      = w.gate.machine.step w.gate.limit w.gate.capacity (w.event (.release id)) := by
  simp only [event]
  cases ht : w.gate.ticket? id with
  | none =>
      rw [release_of_none ht]
      rfl
  | some t =>
      have hid := id_of_ticket? ht
      subst hid
      exact h.balanced.machine_release ht

/-- **ONE STEP OF A GATE IS ONE STEP OF THE MACHINE.** -/
theorem Sound.step_refines {w : World} (h : w.Sound) (a : Action) :
    (w.step a).1.gate.machine
      = w.gate.machine.step w.gate.limit w.gate.capacity (w.event a) := by
  -- release and discard are one event of the machine; time and tokens are none
  cases a with
  | arrive c =>
      simp only [event, World.step]
      cases hd : c.isDone w.tokens w.now with
      | true => rfl
      | false => exact (h.balanced.machine_enter h.fresh _).1
  | poll id => exact h.refines_poll id
  | release id => exact h.refines_release id
  | discard id =>
      show (w.gate.discard id).machine = _
      rw [discard_eq, machine_forget fun _ ht he => isReleased_of_release ht he]
      exact h.refines_release id
  | abandon id =>
      simp only [event, World.step]
      cases hw : w.gate.waiter? id with
      | none =>
          rw [abandon_of_none hw]
          rfl
      | some u =>
          have hid := id_of_waiter? hw
          subst hid
          rw [abandon_of_some hw]
          exact h.balanced.machine_leave hw _
  | cancel t => rfl
  | advance ms => rfl

/-- **HOW A GATE WITH OPTIONS `o` FOLLOWS THE MACHINE**, in one world and for whatever comes next. -/
structure Refined (o : Options) (w : World) : Prop where
  /-- While somebody waits in the queue, all slots are taken. -/
  saturated : w.gate.machine.queue ≠ [] → w.gate.machine.running.card = o.limit.toNat
  capacity_iff : ∀ c, c.isDone w.tokens w.now = false →
    ((w.step (.arrive c)).2 = some (.rejected .capacity)
      ↔ w.gate.machine.size = o.limit.toNat + o.backlogLimit.toNat)
  /-- A request that finds the machine full moves no permit. -/
  capacity_keeps : ∀ c, c.isDone w.tokens w.now = false →
    w.gate.machine.size = o.limit.toNat + o.backlogLimit.toNat →
    (w.step (.arrive c)).1.gate = w.gate.recordRejected .capacity
  admitted_iff : ∀ c, c.isDone w.tokens w.now = false →
    ((w.step (.arrive c)).2 = some .admitted
      ↔ w.gate.machine.size < o.limit.toNat + o.backlogLimit.toNat
        ∧ w.gate.machine.running.card < o.limit.toNat)
  /-- Otherwise it goes to the end of the queue, if the policy lets it wait at all, -/
  parked : ∀ c, c.isDone w.tokens w.now = false →
    w.gate.machine.size < o.limit.toNat + o.backlogLimit.toNat →
    ¬ w.gate.machine.running.card < o.limit.toNat →
    (o.wait = .unbounded ∨ ∃ d : Duration, o.wait = .upTo d ∧ 0 < d.nanos) →
    (w.step (.arrive c)).2 = some .parked
      ∧ (w.step (.arrive c)).1.gate.machine
        = ⟨w.gate.machine.running, w.gate.machine.queue ++ [w.calls.length]⟩
  /-- and is turned away in the same poll if not. -/
  refused : ∀ c, c.isDone w.tokens w.now = false →
    w.gate.machine.size < o.limit.toNat + o.backlogLimit.toNat →
    ¬ w.gate.machine.running.card < o.limit.toNat → o.wait = .upTo .zero →
    (w.step (.arrive c)).2 = some (.rejected (.timeout false))
      ∧ (w.step (.arrive c)).1.gate = w.gate.recordRejected (.timeout false)
  /-- Every step of the gate is the step of the machine that its action stands for. -/
  step : ∀ a, (w.step a).1.gate.machine
    = w.gate.machine.step o.limit.toNat (o.limit.toNat + o.backlogLimit.toNat) (w.event a)

theorem Sound.answer_arrive {w : World} (h : w.Sound) (c : Context)
    (hd : c.isDone w.tokens w.now = false) :
    (w.step (.arrive c)).2
      = some (w.gate.machine.answer w.gate.limit w.gate.capacity w.gate.wait.isPatient) := by
  simp only [World.step, hd]
  rw [(h.balanced.machine_enter h.fresh _).2]

/-- A request that is turned away at its first poll has moved no permit. -/
theorem Sound.gate_arrive_of_rejected {w : World} (h : w.Sound) (c : Context) (reason : Reason)
    (hr : (w.step (.arrive c)).2 = some (.rejected reason)) :
    (w.step (.arrive c)).1.gate = w.gate.recordRejected reason := by
  have hw : w.calls.length ∉ w.gate.waiters.map (·.id) :=
    fun hm => h.fresh (List.mem_append_right _ hm)
  have he := enter_entry w.gate hw w.now (c.isDone w.tokens w.now)
  simp only [World.step] at hr ⊢
  generalize w.gate.enter w.calls.length w.now (c.isDone w.tokens w.now) = out at he hr ⊢
  cases he <;> cases hr <;> rfl

/-- **THE GATE REFINES THE ATOMIC MACHINE**, in every world that a run over an accepted gate
reaches. -/
theorem gate_refines_machine (o : Options) (g : Gate) (h : Gate.ofOptions o = .ok g)
    (as : List Action) : Refined o ((ofGate g).run as) := by
  obtain ⟨hs, hlimit, hcap, hwait⟩ := sound_of_ofOptions h as
  generalize (ofGate g).run as = w at hs hlimit hcap hwait ⊢
  have hsize : w.gate.machine.size ≤ o.limit.toNat + o.backlogLimit.toNat :=
    hcap ▸ hs.balanced.size_le
  have hanswer : ∀ c, c.isDone w.tokens w.now = false → (w.step (.arrive c)).2
      = some (w.gate.machine.answer o.limit.toNat (o.limit.toNat + o.backlogLimit.toNat)
        o.wait.isPatient) := by
    intro c hd
    rw [hs.answer_arrive c hd, hlimit, hcap, hwait]
  have hstep : ∀ a, (w.step a).1.gate.machine
      = w.gate.machine.step o.limit.toNat (o.limit.toNat + o.backlogLimit.toNat) (w.event a) := by
    intro a
    rw [hs.step_refines a, hlimit, hcap]
  refine ⟨fun hq => (hs.balanced.card_eq_of_queue hq).trans hlimit, fun c hd => ?_,
    fun c hd hfull => ?_, fun c hd => ?_, fun c hd hlt hc hp => ?_, fun c hd hlt hc hz => ?_, hstep⟩
  · rw [hanswer c hd, Option.some_inj, Machine.answer_eq_capacity_iff]
  · refine hs.gate_arrive_of_rejected c _ ?_
    rw [hanswer c hd, Machine.answer_eq_capacity_iff.mpr hfull]
  · rw [hanswer c hd, Option.some_inj, Machine.answer_eq_admitted_iff hsize]
  · -- there is time to wait, so it queues
    have hpat : o.wait.isPatient = true := by
      rcases hp with hp | ⟨d, hp, hd⟩
      · rw [hp]
        rfl
      · simpa [hp, BacklogWait.isPatient] using hd
    rw [hanswer c hd, hstep, hpat, Machine.answer_of_full hlt hc]
    refine ⟨rfl, ?_⟩
    simp only [event, hd, hwait, hpat]
    exact Machine.ask_of_full hlt hc _
  · -- there is none, so it is refused at once
    have hpat : o.wait.isPatient = false := (BacklogWait.isPatient_eq_false_iff _).mpr hz
    have hr : (w.step (.arrive c)).2 = some (.rejected (.timeout false)) := by
      rw [hanswer c hd, hpat, Machine.answer_of_full hlt hc]
      rfl
    exact ⟨hr, hs.gate_arrive_of_rejected c _ hr⟩

/-- Two calls wait for one slot; it is handed to the first, which is dropped before its next poll. -/
theorem gate_refines_machine_handed_on :
    Gate.ofOptions ((Options.ofLimit 1).withBacklog 2 .unbounded)
        = .ok (Gate.ofLimits 1 3 .unbounded)
      ∧ Refined ((Options.ofLimit 1).withBacklog 2 .unbounded)
          ((ofGate (Gate.ofLimits 1 3 .unbounded)).run
            [.arrive ⟨none, ⟨0, []⟩, none⟩, .arrive ⟨none, ⟨1, []⟩, none⟩,
              .arrive ⟨none, ⟨2, []⟩, none⟩, .release 0, .abandon 1]) :=
  ⟨rfl, gate_refines_machine _ _ rfl _⟩

end World

end Gate

end Admission

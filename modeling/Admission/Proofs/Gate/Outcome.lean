/-
  Admission.Proofs.Gate.Outcome — which end a call for admission comes to, and when.

  Three things can end the wait of a parked call: its own context, the run permit that it was
  handed, and the timer of the policy.  They may come in any order, or together, before the call is
  polled again; the poll looks at them in this order.  The first poll looks at the context alone
  before it asks for permits.

  A timer is set for the policy's span.  No span is longer than thirty years to it, and one that is
  meant to be is over earlier than the policy says (`timeout_before_span`).

  Main result: `outcome_classified` — **each outcome comes for its own reason only, and none of the
  three events waits for a later poll**.
-/
import Admission.Proofs.Gate.World

namespace Admission

/-! ## §1. The timer. -/

namespace BacklogWait

/-- A wait that began at `since` under the policy `After d` may be given up at `now`: its span is
over, or, if it is longer than thirty years, these are. -/
def Elapsed (d since now : Duration) : Prop :=
  since + d ≤ now ∨ (Timer.farAway < d ∧ since + Timer.farAway ≤ now)

/-- The timer ends exactly when the wait may be given up. -/
theorem expired_iff (w : BacklogWait) (since now : Duration) :
    w.expired since now = true ↔ ∃ d, w = .upTo d ∧ Elapsed d since now := by
  cases w with
  | unbounded => simp [expired, expiry?, duration?]
  | upTo d =>
      show decide (Timer.Due (Timer.after since d) now) = true ↔ _
      rw [decide_eq_true_iff, Timer.due_after_iff]
      simp only [BacklogWait.upTo.injEq, exists_eq_left', Elapsed]

end BacklogWait

namespace Gate.World

/-! ## §2. The outcomes of a call. -/

/-- **WHAT EACH OUTCOME SAYS**, in one world of a gate with options `o`. -/
structure Classified (o : Options) (w : World) : Prop where
  /-- A first poll gives up for its context exactly when that has ended, whatever is free. -/
  arrive_cancelled : ∀ c, (w.step (.arrive c)).2 = some (.rejected (.timeout true))
    ↔ c.isDone w.tokens w.now = true
  /-- A later poll gives up for its context exactly when that has ended, whatever was handed over. -/
  poll_cancelled : ∀ id call v, w.calls[id]? = some call → (w.step (.poll id)).2 = some v →
    (v = .rejected (.timeout true) ↔ call.context.isDone w.tokens w.now = true)
  /-- Only a first poll finds the gate full. -/
  capacity_first : ∀ a, (w.step a).2 = some (.rejected .capacity) → ∃ c, a = .arrive c
  /-- A first poll that is turned away by the timer was not to wait at all. -/
  arrive_timeout : ∀ c, (w.step (.arrive c)).2 = some (.rejected (.timeout false)) →
    ∃ d, o.wait = .upTo d ∧ BacklogWait.Elapsed d w.now w.now
      ∧ c.isDone w.tokens w.now = false ∧ w.gate.freeRun = 0
  /-- A later poll that is turned away by the timer has waited long enough, its context goes on, and
  no run permit was handed to it. -/
  poll_timeout : ∀ id call, w.calls[id]? = some call →
    (w.step (.poll id)).2 = some (.rejected (.timeout false)) →
    ∃ d, o.wait = .upTo d ∧ BacklogWait.Elapsed d call.start w.now
      ∧ call.context.isDone w.tokens w.now = false
      ∧ ∃ u, w.gate.waiter? id = some u ∧ u.handed = false
  /-- The three events, in the order of their priority; without any the call stays where it is. -/
  ready : ∀ id call u, w.calls[id]? = some call → w.gate.waiter? id = some u →
    (call.context.isDone w.tokens w.now = true →
      (w.step (.poll id)).2 = some (.rejected (.timeout true)))
    ∧ (call.context.isDone w.tokens w.now = false → u.handed = true →
      (w.step (.poll id)).2 = some .admitted)
    ∧ (call.context.isDone w.tokens w.now = false → u.handed = false →
      (∃ d, o.wait = .upTo d ∧ BacklogWait.Elapsed d call.start w.now) →
      (w.step (.poll id)).2 = some (.rejected (.timeout false)))
    ∧ (call.context.isDone w.tokens w.now = false → u.handed = false →
      (¬ ∃ d, o.wait = .upTo d ∧ BacklogWait.Elapsed d call.start w.now) →
      w.step (.poll id) = (w, some .parked))

variable {w : World}

theorem isOver_eq {id : Nat} {call : Call} (h : w.calls[id]? = some call) :
    w.isOver id = call.context.isDone w.tokens w.now := by
  simp only [isOver, h]

theorem exists_waiter_of_poll {id : Nat} {v : Verdict} (h : (w.step (.poll id)).2 = some v) :
    ∃ u, w.gate.waiter? id = some u := by
  simp only [World.step] at h
  split at h
  next => cases h
  next u hu => exact ⟨u, hu⟩

/-- A later poll of a parked call is a poll at the gate. -/
theorem step_poll {id : Nat} {u : Waiter} (hu : w.gate.waiter? id = some u) :
    w.step (.poll id) = ({ w with gate := (w.gate.resume id w.now (w.isOver id)).1 },
      some (w.gate.resume id w.now (w.isOver id)).2) := by
  simp only [World.step, hu]

theorem Sound.since_eq (h : w.Sound) {id : Nat} {call : Call} {u : Waiter}
    (hc : w.calls[id]? = some call) (hu : w.gate.waiter? id = some u) : u.since = call.start := by
  obtain ⟨c, hc', hs⟩ := h.since u (mem_of_waiter? hu)
  rw [id_of_waiter? hu, hc] at hc'
  cases hc'
  exact hs.symm

/-! ## §3. First polls. -/

theorem Sound.entry_arrive (h : w.Sound) (c : Context) :
    ∃ g v, Entry w.gate w.calls.length w.now (c.isDone w.tokens w.now) (g, v)
      ∧ (w.step (.arrive c)).2 = some v := by
  have hw : w.calls.length ∉ w.gate.waiters.map (·.id) :=
    fun hm => h.fresh (List.mem_append_right _ hm)
  exact ⟨_, _, enter_entry w.gate hw w.now (c.isDone w.tokens w.now), rfl⟩

theorem Sound.arrive_cancelled_iff (h : w.Sound) (c : Context) :
    (w.step (.arrive c)).2 = some (.rejected (.timeout true))
      ↔ c.isDone w.tokens w.now = true := by
  obtain ⟨g, v, he, hv⟩ := h.entry_arrive c
  rw [hv]
  cases he with
  | ended hd => simp [hd]
  | full hd => simp [hd]
  | admitted hd => simp [hd]
  | impatient hd => simp [hd]
  | parked hd => simp [hd]

theorem Sound.of_arrive_timeout (h : w.Sound) {c : Context}
    (hr : (w.step (.arrive c)).2 = some (.rejected (.timeout false))) :
    (∃ d, w.gate.wait = .upTo d ∧ BacklogWait.Elapsed d w.now w.now)
      ∧ c.isDone w.tokens w.now = false ∧ w.gate.freeRun = 0 := by
  obtain ⟨g, v, he, hv⟩ := h.entry_arrive c
  rw [hv] at hr
  cases he with
  | impatient hd hb hf hx => exact ⟨(BacklogWait.expired_iff _ _ _).mp hx, hd, hf⟩
  | ended | full | admitted | parked => cases hr

/-! ## §4. Later polls. -/

theorem resumption_poll {id : Nat} {call : Call} {u : Waiter}
    (hc : w.calls[id]? = some call) (hu : w.gate.waiter? id = some u) :
    ∃ g v, Resumption w.gate u w.now (call.context.isDone w.tokens w.now) (g, v)
      ∧ w.step (.poll id) = ({ w with gate := g }, some v) := by
  rw [step_poll hu, ← isOver_eq hc]
  exact ⟨_, _, resume_resumption w.gate hu w.now (w.isOver id), rfl⟩

theorem poll_cancelled_iff {id : Nat} {call : Call} {v : Verdict}
    (hc : w.calls[id]? = some call) (hv : (w.step (.poll id)).2 = some v) :
    v = .rejected (.timeout true) ↔ call.context.isDone w.tokens w.now = true := by
  obtain ⟨u, hu⟩ := exists_waiter_of_poll hv
  obtain ⟨g, v', hr, hstep⟩ := resumption_poll hc hu
  rw [hstep] at hv
  cases hv
  cases hr with
  | ended hd => simp [hd]
  | admitted hd => simp [hd]
  | expired hd => simp [hd]
  | parked hd => simp [hd]

theorem exists_arrive_of_capacity {a : Action}
    (h : (w.step a).2 = some (.rejected .capacity)) : ∃ c, a = .arrive c := by
  cases a with
  | arrive c => exact ⟨c, rfl⟩
  | poll id =>
      obtain ⟨u, hu⟩ := exists_waiter_of_poll h
      have hr := resume_resumption w.gate hu w.now (w.isOver id)
      rw [step_poll hu] at h
      generalize w.gate.resume id w.now (w.isOver id) = out at hr h
      cases hr <;> cases h
  | release | discard | abandon | cancel | advance => cases h

theorem Sound.of_poll_timeout (h : w.Sound) {id : Nat} {call : Call}
    (hc : w.calls[id]? = some call)
    (hr : (w.step (.poll id)).2 = some (.rejected (.timeout false))) :
    (∃ d, w.gate.wait = .upTo d ∧ BacklogWait.Elapsed d call.start w.now)
      ∧ call.context.isDone w.tokens w.now = false
      ∧ ∃ u, w.gate.waiter? id = some u ∧ u.handed = false := by
  obtain ⟨u, hu⟩ := exists_waiter_of_poll hr
  obtain ⟨g, v, hres, hstep⟩ := resumption_poll hc hu
  rw [hstep] at hr
  cases hres with
  | expired hd hh hx =>
      rw [h.since_eq hc hu] at hx
      exact ⟨(BacklogWait.expired_iff _ _ _).mp hx, hd, u, hu, hh⟩
  | ended | admitted | parked => cases hr

/-- **THE ORDER OF THE THREE EVENTS**: context, run permit, timer. -/
theorem Sound.poll_ready (h : w.Sound) {id : Nat} {call : Call} {u : Waiter}
    (hc : w.calls[id]? = some call) (hu : w.gate.waiter? id = some u) :
    (call.context.isDone w.tokens w.now = true →
      (w.step (.poll id)).2 = some (.rejected (.timeout true)))
    ∧ (call.context.isDone w.tokens w.now = false → u.handed = true →
      (w.step (.poll id)).2 = some .admitted)
    ∧ (call.context.isDone w.tokens w.now = false → u.handed = false →
      (∃ d, w.gate.wait = .upTo d ∧ BacklogWait.Elapsed d call.start w.now) →
      (w.step (.poll id)).2 = some (.rejected (.timeout false)))
    ∧ (call.context.isDone w.tokens w.now = false → u.handed = false →
      (¬ ∃ d, w.gate.wait = .upTo d ∧ BacklogWait.Elapsed d call.start w.now) →
      w.step (.poll id) = (w, some .parked)) := by
  obtain ⟨g, v, hres, hstep⟩ := resumption_poll hc hu
  rw [← BacklogWait.expired_iff _ _ _, ← h.since_eq hc hu, hstep]
  cases hres with
  | ended hd => simp [hd]
  | admitted hd hh => simp [hd, hh]
  | expired hd hh hx => simp [hd, hh, hx]
  | parked hd hh hx => simp [hd, hh, hx]

/-! ## §5. The classification. -/

/-- **OUTCOME CLASSIFICATION**, in every world that a run over an accepted gate reaches. -/
theorem outcome_classified (o : Options) (g : Gate) (h : Gate.ofOptions o = .ok g)
    (as : List Action) : Classified o ((ofGate g).run as) := by
  obtain ⟨hs, -, -, hwait⟩ := sound_of_ofOptions h as
  generalize (ofGate g).run as = w at hs hwait ⊢
  refine ⟨fun c => hs.arrive_cancelled_iff c, fun _ _ _ hc hv => poll_cancelled_iff hc hv,
    fun _ ha => exists_arrive_of_capacity ha, fun c hr => ?_, fun id call hc hr => ?_,
    fun id call u hc hu => ?_⟩
  · obtain ⟨⟨d, hd, hx⟩, hdone, hfree⟩ := hs.of_arrive_timeout hr
    exact ⟨d, hwait ▸ hd, hx, hdone, hfree⟩
  · obtain ⟨⟨d, hd, hx⟩, hdone, hparked⟩ := hs.of_poll_timeout hc hr
    exact ⟨d, hwait ▸ hd, hx, hdone, hparked⟩
  · rw [← hwait]
    exact hs.poll_ready hc hu

/-- Two calls wait; the first is handed the slot and cancelled before it is polled again. -/
theorem outcome_classified_slot_and_cancel :
    Gate.ofOptions ((Options.ofLimit 1).withBacklog 2 (.upTo (.ofMillis 10)))
        = .ok (Gate.ofLimits 1 3 (.upTo (.ofMillis 10)))
      ∧ Classified ((Options.ofLimit 1).withBacklog 2 (.upTo (.ofMillis 10)))
          ((ofGate (Gate.ofLimits 1 3 (.upTo (.ofMillis 10)))).run
            [.arrive ⟨none, ⟨0, []⟩, none⟩, .arrive ⟨none, ⟨1, []⟩, none⟩,
              .arrive ⟨none, ⟨2, []⟩, none⟩, .advance 10, .release 0,
              .cancel ⟨1, []⟩]) :=
  ⟨rfl, outcome_classified _ _ rfl _⟩

/-- **A TIMER MAY END BEFORE THE SPAN OF THE POLICY**: the longest span that can be asked for is over
after thirty years. -/
theorem timeout_before_span :
    let span : Duration := .ofParts 18446744073709551615 999999999
    let w := (ofGate (Gate.ofLimits 1 3 (.upTo span))).run
      [.arrive ⟨none, ⟨0, []⟩, none⟩, .arrive ⟨none, ⟨1, []⟩, none⟩, .advance 946080000000]
    Gate.ofOptions ((Options.ofLimit 1).withBacklog 2 (.upTo span))
        = .ok (Gate.ofLimits 1 3 (.upTo span))
      ∧ (w.step (.poll 1)).2 = some (.rejected (.timeout false))
      ∧ ¬ ((w.calls[1]?.map (·.start)).getD .zero + span ≤ w.now) := by
  refine ⟨rfl, ?_, ?_⟩ <;> decide

end Gate.World

end Admission

/-
  Admission.Proofs.Gate.World — a gate among its surroundings, and its runs.

  A WORLD is a gate, the clock, the cancelled tokens and the calls for admission made so far.  An
  ACTION is one thing that can happen to it: the first poll of a call, a later poll of one that is
  parked, a ticket released or dropped, a parked call dropped by its caller, a token cancelled, time
  passed.  A run is any list of actions.  Calls are numbered in the order of their first polls, and
  a call may bring any context whatever, so what holds of every run holds in particular of those
  whose contexts were derived one from another.

  Main results:
    * `Sound.step`, `Sound.run` — the invariant `Sound` holds in every world that a run reaches;
    * `permits_conserved` — **no run loses or doubles a permit**.
-/
import Admission.Context
import Admission.Proofs.Gate.Operations

namespace Admission.Gate

/-! ## §1. Worlds and actions. -/

/-- A call for admission that was polled at least once. -/
structure Call where
  context : Context
  /-- When it was polled first. -/
  start : Duration

/-- A gate among its surroundings. -/
structure World where
  gate : Gate
  now : Duration
  tokens : Tokens
  /-- The calls polled so far; a call is known by its place in this list. -/
  calls : List Call

/-- What can happen to a world. -/
inductive Action where
  /-- The first poll of a new call, which brings its context. -/
  | arrive (context : Context)
  /-- A later poll of a parked call. -/
  | poll (id : Nat)
  | release (id : Nat)
  /-- The ticket of a call is dropped. -/
  | discard (id : Nat)
  /-- A parked call is dropped by its caller. -/
  | abandon (id : Nat)
  | cancel (token : Token)
  /-- The clock moves, in whole milliseconds. -/
  | advance (ms : Nat)

namespace World

/-- A gate at the start of the clock, before any call. -/
def ofGate (g : Gate) : World := ⟨g, .zero, .empty, []⟩

/-- The context of a call has ended. -/
def isOver (w : World) (id : Nat) : Bool :=
  match w.calls[id]? with
  | some c => c.context.isDone w.tokens w.now
  | none => false

/-- Time passes, in whole milliseconds. -/
def tick (w : World) (ms : Nat) : World := { w with now := w.now + .ofMillis ms }

/-- One action, and what a poll yields. -/
def step (w : World) : Action → World × Option Verdict
  | .arrive c =>
      let r := w.gate.enter w.calls.length w.now (c.isDone w.tokens w.now)
      ({ w with gate := r.1, calls := w.calls ++ [⟨c, w.now⟩] }, some r.2)
  | .poll id =>
      match w.gate.waiter? id with
      | none => (w, none)
      | some _ =>
          let r := w.gate.resume id w.now (w.isOver id)
          ({ w with gate := r.1 }, some r.2)
  | .release id => ({ w with gate := w.gate.release id }, none)
  | .discard id => ({ w with gate := w.gate.discard id }, none)
  | .abandon id => ({ w with gate := w.gate.abandon id }, none)
  | .cancel t => ({ w with tokens := w.tokens.cancel t }, none)
  | .advance ms => (w.tick ms, none)

/-- One action after the other. -/
def run (w : World) (as : List Action) : World := as.foldl (fun w a => (w.step a).1) w

end World

/-! ## §2. What no operation changes. -/

/-- `g'` comes after `g`, and nobody has come to it in between. -/
structure Follows (g g' : Gate) : Prop where
  limit : g'.limit = g.limit
  capacity : g'.capacity = g.capacity
  wait : g'.wait = g.wait
  ids : ∀ i ∈ g'.ids, i ∈ g.ids
  /-- Whoever is parked was parked before, since the same instant. -/
  since : ∀ u ∈ g'.waiters, ∃ v ∈ g.waiters, v.id = u.id ∧ v.since = u.since

namespace Follows

variable {g g' g'' : Gate}

theorem refl (g : Gate) : Follows g g :=
  ⟨rfl, rfl, rfl, fun _ h => h, fun u h => ⟨u, h, rfl, rfl⟩⟩

theorem trans (h : Follows g g') (h' : Follows g' g'') : Follows g g'' := by
  refine ⟨h'.limit.trans h.limit, h'.capacity.trans h.capacity, h'.wait.trans h.wait,
    fun i hi => h.ids i (h'.ids i hi), fun u hu => ?_⟩
  obtain ⟨v, hv, hid, hs⟩ := h'.since u hu
  obtain ⟨x, hx, hid', hs'⟩ := h.since v hv
  exact ⟨x, hx, hid'.trans hid, hs'.trans hs⟩

/-- Only pools and counters differ. -/
theorem of_eq (hl : g'.limit = g.limit) (hc : g'.capacity = g.capacity) (hw : g'.wait = g.wait)
    (ht : g'.tickets = g.tickets) (hs : g'.waiters = g.waiters) : Follows g g' := by
  refine ⟨hl, hc, hw, fun i hi => ?_, fun u hu => ⟨u, hs ▸ hu, rfl, rfl⟩⟩
  rwa [Gate.ids, ht, hs] at hi

theorem returnRun (g : Gate) : Follows g g.returnRun := by
  have hret := returnRun_runReturn g
  generalize g.returnRun = g' at hret ⊢
  cases hret with
  | toPool => exact of_eq rfl rfl rfl rfl rfl
  | @toFirst pre post w hg hpre hw =>
      refine ⟨rfl, rfl, rfl, fun i hi => ?_, fun u hu => ?_⟩
      · rw [Gate.ids, hg]
        simpa [Gate.ids] using hi
      · rw [hg]
        rcases List.mem_append.mp hu with hu | hu
        · exact ⟨u, List.mem_append_left _ hu, rfl, rfl⟩
        · rcases List.mem_cons.mp hu with rfl | hu
          · exact ⟨w, by simp, rfl, rfl⟩
          · exact ⟨u, by simp [hu], rfl, rfl⟩

theorem returnBacklog (g : Gate) : Follows g g.returnBacklog := of_eq rfl rfl rfl rfl rfl

theorem recordRejected (g : Gate) (reason : Reason) : Follows g (g.recordRejected reason) :=
  of_eq rfl rfl rfl rfl rfl

theorem unpark (g : Gate) (id : Nat) : Follows g (g.unpark id) := by
  have hsub : ∀ u ∈ (g.unpark id).waiters, u ∈ g.waiters := fun u hu => (List.mem_filter.mp hu).1
  refine ⟨rfl, rfl, rfl, fun i hi => ?_, fun u hu => ⟨u, hsub u hu, rfl, rfl⟩⟩
  rcases List.mem_append.mp hi with hi | hi
  · exact List.mem_append_left _ hi
  · obtain ⟨u, hu, rfl⟩ := List.mem_map.mp hi
    exact List.mem_append_right _ (List.mem_map_of_mem (hsub u hu))

theorem leave (g : Gate) (w : Waiter) (reason : Reason) : Follows g (g.leave w reason) := by
  unfold Gate.leave
  have hun := unpark g w.id
  cases w.handed with
  | true => exact ((hun.trans (returnRun _)).trans (returnBacklog _)).trans (recordRejected _ _)
  | false => exact (hun.trans (returnBacklog _)).trans (recordRejected _ _)

theorem resume (g : Gate) {id : Nat} {w : Waiter} (hw : g.waiter? id = some w) (now : Duration)
    (done : Bool) : Follows g (g.resume id now done).1 := by
  have hr := resume_resumption g hw now done
  generalize g.resume id now done = out at hr ⊢
  cases hr with
  | ended => exact leave g w _
  | admitted _ hh =>
      have hun := unpark g w.id
      refine ⟨rfl, rfl, rfl, fun i hi => ?_, hun.since⟩
      simp only [Gate.ids, issue, List.map_append, List.map_cons, List.map_nil, List.append_assoc,
        List.mem_append, List.mem_singleton] at hi
      rcases hi with hi | rfl | hi
      · exact List.mem_append_left _ hi
      · exact List.mem_append_right _ (List.mem_map_of_mem (mem_of_waiter? hw))
      · exact hun.ids i (List.mem_append_right _ hi)
  | expired => exact leave g w _
  | parked => exact refl g

theorem abandon (g : Gate) (id : Nat) : Follows g (g.abandon id) := by
  unfold Gate.abandon
  split
  · exact refl g
  · exact leave g _ _

/-- Whoever has a ticket in `g'` had one in `g`. -/
theorem of_tickets (hl : g'.limit = g.limit) (hc : g'.capacity = g.capacity) (hw : g'.wait = g.wait)
    (ht : ∀ t ∈ g'.tickets, t.id ∈ g.tickets.map (·.id)) (hs : g'.waiters = g.waiters) :
    Follows g g' := by
  refine ⟨hl, hc, hw, fun i hi => ?_, fun u hu => ⟨u, hs ▸ hu, rfl, rfl⟩⟩
  rw [Gate.ids, hs] at hi
  rcases List.mem_append.mp hi with hi | hi
  · obtain ⟨t, htm, rfl⟩ := List.mem_map.mp hi
    exact List.mem_append_left _ (ht t htm)
  · exact List.mem_append_right _ hi

theorem spend (g : Gate) (id : Nat) : Follows g (g.spend id) := by
  refine of_tickets rfl rfl rfl (fun t ht => ?_) rfl
  obtain ⟨u, hu, rfl⟩ := List.mem_map.mp ht
  have : (if u.id == id then spent u else u).id = u.id := by split <;> rfl
  rw [this]
  exact List.mem_map_of_mem hu

theorem forget (g : Gate) (id : Nat) : Follows g (g.forget id) :=
  of_tickets rfl rfl rfl (fun _ ht => List.mem_map_of_mem (List.mem_filter.mp ht).1) rfl

theorem release (hb : Balanced g 0 0) (id : Nat) : Follows g (g.release id) := by
  cases ht : g.ticket? id with
  | none =>
      rw [release_of_none ht]
      exact refl g
  | some t =>
      have hid := id_of_ticket? ht
      subst hid
      rw [release_eq ht (hb.paired t (mem_of_ticket? ht))]
      split
      · exact ((spend g t.id).trans (returnRun _)).trans (returnBacklog _)
      · exact spend g t.id

theorem discard (hb : Balanced g 0 0) (id : Nat) : Follows g (g.discard id) :=
  (release hb id).trans (forget _ id)

end Follows

/-- **A PARKED REQUEST THAT IS DROPPED GIVES BACK WHAT IT HELD**: its backlog permit, and the run
permit that it was handed, which is in the pool or with another one. -/
theorem Balanced.givenBack {g : Gate} (h : Balanced g 0 0) {w : Waiter} (hw : w ∈ g.waiters) :
    w.id ∉ (g.abandon w.id).ids ∧ (g.abandon w.id).freeBacklog = g.freeBacklog + 1
      ∧ (g.abandon w.id).freeRun + (g.abandon w.id).promised.length
        = g.freeRun + g.promised.length := by
  have hfind : g.waiter? w.id = some w := find?_of_mem _ h.waiters_nodup hw
  have hrun := h.run_sum
  have hrun' := (h.leave hfind (.timeout true)).run_sum
  have hlive : (g.leave w (.timeout true)).live = g.live := by
    unfold live
    rw [tickets_leave]
  rw [hlive, (Follows.leave g w _).limit] at hrun'
  rw [abandon_of_some hfind]
  exact ⟨h.notMem_ids_leave hfind _, freeBacklog_leave g w _, by omega⟩

/-! ## §3. The invariant of a world. -/

namespace World

/-- **THE INVARIANT OF A WORLD.** -/
structure Sound (w : World) : Prop where
  balanced : Balanced w.gate 0 0
  known : ∀ i ∈ w.gate.ids, i < w.calls.length
  /-- A parked call waits since its first poll. -/
  since : ∀ u ∈ w.gate.waiters, ∃ c, w.calls[u.id]? = some c ∧ c.start = u.since

theorem Sound.fresh {w : World} (h : w.Sound) : w.calls.length ∉ w.gate.ids :=
  fun hm => Nat.lt_irrefl _ (h.known _ hm)

theorem Sound.of_follows {w : World} (h : w.Sound) {g : Gate} (hb : Balanced g 0 0)
    (hf : Follows w.gate g) : Sound { w with gate := g } := by
  refine ⟨hb, fun i hi => h.known i (hf.ids i hi), fun u hu => ?_⟩
  obtain ⟨v, hv, hid, hs⟩ := hf.since u hu
  obtain ⟨c, hc, hst⟩ := h.since v hv
  exact ⟨c, hid ▸ hc, hst.trans hs⟩

theorem ofGate_sound (limit capacity : Nat) (wait : BacklogWait) :
    Sound (ofGate (Gate.ofLimits limit capacity wait)) := by
  refine ⟨⟨rfl, rfl, ?_, List.nodup_nil, fun _ => rfl⟩, ?_, ?_⟩
  · intro t ht
    cases ht
  · intro i hi
    cases hi
  · intro u hu
    cases hu

/-- Who has come in by the first poll of a call. -/
theorem enter_newcomer (g : Gate) {id : Nat} (hid : id ∉ g.waiters.map (·.id)) (now : Duration)
    (done : Bool) :
    (∀ i ∈ (g.enter id now done).1.ids, i ∈ g.ids ∨ i = id)
      ∧ ∀ u ∈ (g.enter id now done).1.waiters, u ∈ g.waiters ∨ (u.id = id ∧ u.since = now) := by
  have he := enter_entry g hid now done
  generalize g.enter id now done = out at he ⊢
  cases he with
  | ended => exact ⟨fun _ h => .inl h, fun _ h => .inl h⟩
  | full => exact ⟨fun _ h => .inl h, fun _ h => .inl h⟩
  | impatient => exact ⟨fun _ h => .inl h, fun _ h => .inl h⟩
  | admitted =>
      refine ⟨fun i hi => ?_, fun u hu => .inl hu⟩
      simp only [ids, issue, takeRun, takeBacklog, List.map_append, List.map_cons, List.map_nil,
        List.mem_append, List.mem_singleton] at hi ⊢
      tauto
  | parked =>
      refine ⟨fun i hi => ?_, fun u hu => ?_⟩
      · simp only [ids, park, takeBacklog, List.map_append, List.map_cons, List.map_nil,
          List.mem_append, List.mem_singleton] at hi ⊢
        tauto
      · rcases List.mem_append.mp hu with hu | hu
        · exact .inl hu
        · rw [List.mem_singleton.mp hu]
          exact .inr ⟨rfl, rfl⟩

theorem Sound.arrive {w : World} (h : w.Sound) (c : Context) : (w.step (.arrive c)).1.Sound := by
  have hw : w.calls.length ∉ w.gate.waiters.map (·.id) :=
    fun hm => h.fresh (List.mem_append_right _ hm)
  obtain ⟨hids, hwaiters⟩ := enter_newcomer w.gate hw w.now (c.isDone w.tokens w.now)
  refine ⟨h.balanced.enter h.fresh _ _, fun i hi => ?_, fun u hu => ?_⟩
  · show i < (w.calls ++ [_]).length
    rw [List.length_append, List.length_singleton]
    rcases hids i hi with hi | rfl
    · exact Nat.lt_succ_of_lt (h.known i hi)
    · exact Nat.lt_succ_self _
  · show ∃ d, (w.calls ++ [_])[u.id]? = some d ∧ _
    rcases hwaiters u hu with hu | ⟨hid, hs⟩
    · obtain ⟨d, hd, hst⟩ := h.since u hu
      refine ⟨d, ?_, hst⟩
      rw [List.getElem?_append_left (h.known u.id
        (List.mem_append_right _ (List.mem_map_of_mem hu)))]
      exact hd
    · exact ⟨⟨c, w.now⟩, by simp [hid], hs.symm⟩

theorem Sound.tick {w : World} (h : w.Sound) (ms : Nat) : (w.tick ms).Sound :=
  ⟨h.balanced, h.known, h.since⟩

/-- **ONE STEP KEEPS THE INVARIANT.** -/
theorem Sound.step {w : World} (h : w.Sound) (a : Action) : (w.step a).1.Sound := by
  cases a with
  | arrive c => exact h.arrive c
  | poll id =>
      simp only [World.step]
      split
      next => exact h
      next u hu => exact h.of_follows (h.balanced.resume hu _ _) (.resume _ hu _ _)
  | release id => exact h.of_follows (h.balanced.release id) (.release h.balanced id)
  | discard id => exact h.of_follows (h.balanced.discard id) (.discard h.balanced id)
  | abandon id => exact h.of_follows (h.balanced.abandon id) (.abandon _ id)
  | cancel t => exact ⟨h.balanced, h.known, h.since⟩
  | advance ms => exact h.tick ms

/-- **A WHOLE RUN KEEPS THE INVARIANT.** -/
theorem Sound.run {w : World} (h : w.Sound) (as : List Action) : (w.run as).Sound := by
  induction as generalizing w with
  | nil => exact h
  | cons a as ih => exact ih (h.step a)

/-- The numbers and the policy that a gate was built with never change. -/
structure SameTerms (g g' : Gate) : Prop where
  limit : g'.limit = g.limit
  capacity : g'.capacity = g.capacity
  wait : g'.wait = g.wait

theorem Sound.sameTerms_step {w : World} (h : w.Sound) (a : Action) :
    SameTerms w.gate (w.step a).1.gate := by
  have of_follows : ∀ {g : Gate}, Follows w.gate g → SameTerms w.gate g :=
    fun hf => ⟨hf.limit, hf.capacity, hf.wait⟩
  cases a with
  | arrive c =>
      have hw : w.calls.length ∉ w.gate.waiters.map (·.id) :=
        fun hm => h.fresh (List.mem_append_right _ hm)
      have he := enter_entry w.gate hw w.now (c.isDone w.tokens w.now)
      simp only [World.step]
      generalize w.gate.enter w.calls.length w.now (c.isDone w.tokens w.now) = out at he ⊢
      cases he <;> exact ⟨rfl, rfl, rfl⟩
  | poll id =>
      simp only [World.step]
      split
      next => exact ⟨rfl, rfl, rfl⟩
      next u hu => exact of_follows (.resume _ hu _ _)
  | release id => exact of_follows (.release h.balanced id)
  | discard id => exact of_follows (.discard h.balanced id)
  | abandon id => exact of_follows (.abandon _ id)
  | cancel t => exact ⟨rfl, rfl, rfl⟩
  | advance ms => exact ⟨rfl, rfl, rfl⟩

theorem Sound.sameTerms_run {w : World} (h : w.Sound) (as : List Action) :
    SameTerms w.gate (w.run as).gate := by
  induction as generalizing w with
  | nil => exact ⟨rfl, rfl, rfl⟩
  | cons a as ih =>
      have h1 := h.sameTerms_step a
      have h2 := ih (h.step a)
      exact ⟨h2.limit.trans h1.limit, h2.capacity.trans h1.capacity, h2.wait.trans h1.wait⟩

/-! ## §4. Gates of accepted options. -/

theorem of_capacity? {o : Options} {c : Nat} (h : o.capacity? = some c) :
    c = o.limit.toNat + o.backlogLimit.toNat ∧ c ≤ Options.maxWord := by
  unfold Options.capacity? at h
  simp only at h
  split at h
  next hle =>
    cases h
    exact ⟨rfl, hle⟩
  next => cases h

theorem exists_capacity_of_ofOptions {o : Options} {g : Gate} (h : Gate.ofOptions o = .ok g) :
    ∃ c, o.capacity? = some c ∧ g = Gate.ofLimits o.limit.toNat c o.wait := by
  unfold Gate.ofOptions at h
  split at h
  next => cases h
  next =>
    split at h
    next => cases h
    next c hc =>
      cases h
      exact ⟨c, hc, rfl⟩

/-- A gate that its options allow has a run permit for each request that may run, and a backlog
permit for each that may run or wait. -/
theorem eq_of_ofOptions {o : Options} {g : Gate} (h : Gate.ofOptions o = .ok g) :
    g = Gate.ofLimits o.limit.toNat (o.limit.toNat + o.backlogLimit.toNat) o.wait := by
  obtain ⟨c, hc, hg⟩ := exists_capacity_of_ofOptions h
  rw [hg, (of_capacity? hc).1]

/-- The permits of an accepted gate can be counted in a machine word. -/
theorem capacity_lt_of_ofOptions {o : Options} {g : Gate} (h : Gate.ofOptions o = .ok g) :
    o.limit.toNat + o.backlogLimit.toNat < UInt64.size := by
  obtain ⟨c, hc, -⟩ := exists_capacity_of_ofOptions h
  obtain ⟨hsum, hle⟩ := of_capacity? hc
  rw [← hsum]
  exact Nat.lt_succ_of_le hle

/-- Every world that a run over an accepted gate reaches is sound, and its gate stands by the
options. -/
theorem sound_of_ofOptions {o : Options} {g : Gate} (h : Gate.ofOptions o = .ok g)
    (as : List Action) :
    ((ofGate g).run as).Sound ∧ ((ofGate g).run as).gate.limit = o.limit.toNat
      ∧ ((ofGate g).run as).gate.capacity = o.limit.toNat + o.backlogLimit.toNat
      ∧ ((ofGate g).run as).gate.wait = o.wait := by
  have hg := eq_of_ofOptions h
  subst hg
  have hs := ofGate_sound o.limit.toNat (o.limit.toNat + o.backlogLimit.toNat) o.wait
  have hc := hs.sameTerms_run as
  exact ⟨hs.run as, hc.limit, hc.capacity, hc.wait⟩

/-! ## §5. Conservation. -/

/-- **NO PERMIT IS LOST OR DOUBLED**: where the permits of a gate with options `o` are. -/
structure Conserved (o : Options) (g : Gate) : Prop where
  /-- Run permits: in the pool, with live tickets, or handed to parked calls. -/
  run_permits : g.freeRun + g.live.length + g.promised.length = o.limit.toNat
  /-- Backlog permits: in the pool, with live tickets, or with parked calls. -/
  backlog_permits :
    g.freeBacklog + g.live.length + g.waiters.length = o.limit.toNat + o.backlogLimit.toNat
  /-- A ticket holds both permits or neither. -/
  paired : ∀ t ∈ g.tickets, (t.run = true ∧ t.backlog = true) ∨ (t.run = false ∧ t.backlog = false)
  /-- No call holds two tickets, two places, or one of each. -/
  distinct : g.ids.Nodup
  live_le : g.live.length ≤ o.limit.toNat
  holders_le : g.live.length + g.waiters.length ≤ o.limit.toNat + o.backlogLimit.toNat
  /-- Releasing a ticket once more changes nothing. -/
  release_again : ∀ t ∈ g.tickets, t.isReleased = true → g.release t.id = g
  /-- Dropping a released ticket takes the ticket away and changes nothing else. -/
  discard_after : ∀ t ∈ g.tickets, t.isReleased = true →
    g.discard t.id = { g with tickets := g.tickets.filter (·.id != t.id) }
  /-- After a release the ticket is a released one, so all of this holds of it. -/
  released : ∀ id, ∀ t ∈ (g.release id).tickets, t.id = id → t.isReleased = true
  /-- A parked call that is dropped has no ticket and no place; its backlog permit is in the pool,
  and the run permit that it was handed is in the pool or with another call. -/
  abandoned : ∀ w ∈ g.waiters, w.id ∉ (g.abandon w.id).ids
    ∧ (g.abandon w.id).freeBacklog = g.freeBacklog + 1
    ∧ (g.abandon w.id).freeRun + (g.abandon w.id).promised.length = g.freeRun + g.promised.length

/-- **PERMIT CONSERVATION**: in every world that a run over an accepted gate reaches, each permit is
in exactly one place. -/
theorem permits_conserved (o : Options) (g : Gate) (h : Gate.ofOptions o = .ok g)
    (as : List Action) : Conserved o ((ofGate g).run as).gate := by
  obtain ⟨hs, hlimit, hcap, -⟩ := sound_of_ofOptions h as
  have hrun := hs.balanced.run_sum
  have hback := hs.balanced.backlog_sum
  rw [hlimit] at hrun
  rw [hcap] at hback
  -- numbers are distinct, so a released ticket is the only one of its number
  have hagain : ∀ t ∈ ((ofGate g).run as).gate.tickets, t.isReleased = true →
      ((ofGate g).run as).gate.release t.id = ((ofGate g).run as).gate := by
    intro t ht hr
    refine release_of_released fun u hu he => ?_
    rw [List.inj_on_of_nodup_map hs.balanced.tickets_nodup hu ht he]
    exact hr
  refine ⟨by omega, by omega, fun t ht => ?_, hs.balanced.nodup, by omega, by omega, hagain,
    fun t ht hr => ?_, fun _ _ ht he => isReleased_of_release ht he,
    fun _ hw => hs.balanced.givenBack hw⟩
  · rw [hs.balanced.paired t ht]
    cases t.backlog <;> simp
  · rw [discard_eq, hagain t ht hr]
    rfl

/-- A slot is handed to a parked call that is dropped before it is polled again: it comes back. -/
theorem permits_conserved_handed_then_dropped :
    Gate.ofOptions ((Options.ofLimit 1).withBacklog 2 .unbounded)
        = .ok (Gate.ofLimits 1 3 .unbounded)
      ∧ Conserved ((Options.ofLimit 1).withBacklog 2 .unbounded)
          ((ofGate (Gate.ofLimits 1 3 .unbounded)).run
            [.arrive ⟨none, ⟨0, []⟩, none⟩, .arrive ⟨none, ⟨1, []⟩, none⟩, .release 0, .abandon 1,
              .release 0]).gate :=
  ⟨rfl, permits_conserved _ _ rfl _⟩

end World

end Admission.Gate

/-
  Admission.Proofs.Gate.Interleaving — the backlog bounds who is parked, however calls interleave.

  What carries the bound is an order: a call takes its backlog permit before a run permit, and gives
  it back after.  So nobody ever holds a run permit alone, and whoever has taken its backlog permit
  and not yet tried for a run permit holds the former alone.

  Main results:
    * `Sound.motion`, `Sound.run_moves` — the invariant holds whatever the order of the moves;
    * `Sound.line_le` — the line is no longer than the backlog;
    * `Sound.freeRun_pos` — without a backlog, a call that got in finds a run permit;
    * `parked_within_backlog` — **parked calls never exceed the backlog**.
-/
import Admission.Proofs.Gate.Books

namespace Admission.Gate

/-! ## §1. The invariant of a floor. -/

namespace Floor

variable {limit capacity : Nat} {f : Floor}

/-- **THE INVARIANT OF A FLOOR** with `limit` run permits and `capacity` backlog permits. -/
structure Sound (limit capacity : Nat) (f : Floor) : Prop where
  run : RunBooks limit f.gate 0
  backlog : f.gate.freeBacklog + f.gate.tickets.countP (·.backlog) + f.callers.length = capacity
  /-- No ticket holds a run permit alone. -/
  ordered : ∀ t ∈ f.gate.tickets, t.run = true → t.backlog = true
  roster : Roster (f.gate.tickets.map (·.id)) f.callers (f.gate.waiters.map (·.id)) f.fresh

theorem Sound.length_finish (h : f.Sound limit capacity) {c : Caller} (hc : c ∈ f.callers) :
    (f.callers.filter (·.id != c.id)).length + 1 = f.callers.length := by
  have hf : f.callers.find? (·.id == c.id) = some c :=
    find?_of_mem Caller.id h.roster.callers_nodup hc
  obtain ⟨pre, post, hcs, hid, hpre, hpost⟩ :=
    exists_split_of_find? Caller.id h.roster.callers_nodup hf
  have hcut : f.callers.filter (·.id != c.id) = pre ++ post := by
    rw [hcs]
    exact filter_ne_split Caller.id hid hpre hpost
  rw [hcut, hcs, List.length_append, List.length_append, List.length_cons]
  omega

/-- A call gets its ticket from a gate whose books have a run permit in transit. -/
theorem Sound.issue (h : f.Sound limit capacity) {c : Caller} (hc : c ∈ f.callers) {g : Gate}
    (hrun : RunBooks limit g 1) (hb : g.freeBacklog = f.gate.freeBacklog)
    (ht : g.tickets = f.gate.tickets) {ps : List Nat} (hw : g.waiters.map (·.id) = ps)
    (hroster : Roster (f.gate.tickets.map (·.id)) f.callers ps f.fresh) (hp : c.id ∉ ps) :
    (f.finish (g.issue c.id) c.id).Sound limit capacity := by
  subst hw
  refine ⟨hrun.issue c.id, ?_, fun t hm hr => ?_, ?_⟩
  · have hlen := h.length_finish hc
    have hback := h.backlog
    show g.freeBacklog + (g.tickets ++ [(⟨c.id, true, true⟩ : Ticket)]).countP (·.backlog)
      + (f.callers.filter (·.id != c.id)).length = capacity
    rw [List.countP_append, List.countP_singleton, if_pos rfl, hb, ht]
    omega
  · rcases List.mem_append.mp hm with hm | hm
    · exact h.ordered t (ht ▸ hm) hr
    · rw [List.mem_singleton.mp hm]
  · have hids : (g.issue c.id).tickets.map (·.id) = f.gate.tickets.map (·.id) ++ [c.id] := by
      rw [← ht]
      simp [Gate.issue]
    show Roster ((g.issue c.id).tickets.map (·.id)) _ (g.waiters.map (·.id)) f.fresh
    rw [hids]
    exact hroster.ticket hc hp

/-- A call goes on in a gate with the same backlog permits and tickets. -/
theorem Sound.goOn (h : f.Sound limit capacity) {g : Gate} (hrun : RunBooks limit g 0)
    (hb : g.freeBacklog = f.gate.freeBacklog) (ht : g.tickets = f.gate.tickets) {i : Nat}
    {stage : Stage} (hroster : Roster (f.gate.tickets.map (·.id))
      (f.callers.map fun c => if c.id == i then c.withStage stage else c)
      (g.waiters.map (·.id)) f.fresh) : (f.goOn g i stage).Sound limit capacity := by
  refine ⟨hrun, ?_, fun t hm => h.ordered t (ht ▸ hm), ?_⟩
  · show g.freeBacklog + g.tickets.countP (·.backlog) + (f.callers.map _).length = capacity
    rw [hb, ht, List.length_map]
    exact h.backlog
  · show Roster (g.tickets.map (·.id)) _ _ f.fresh
    rw [ht]
    exact hroster

theorem Sound.tickets_nodup (h : f.Sound limit capacity) :
    (f.gate.tickets.map (·.id)).Nodup := (List.nodup_append.mp h.roster.nodup).1

/-- What a call was handed goes on when it leaves the line, and nobody else moves in the line. -/
theorem Sound.quit (h : f.Sound limit capacity) {u : Waiter}
    (hu : f.gate.waiter? u.id = some u) (reason : Reason) :
    (f.quit u reason).Sound limit capacity := by
  have hun := h.run.unpark h.roster.parked_nodup hu
  have hroster := (h.roster.unpark u.id).goOn (i := u.id) (by simp) (.leaving reason)
  rw [← map_id_unpark] at hroster
  unfold Floor.quit
  cases hh : u.handed with
  | true =>
      rw [hh] at hun
      refine h.goOn hun.returnRun (freeBacklog_returnRun _) (tickets_returnRun _) ?_
      rw [map_id_returnRun]
      exact hroster
  | false =>
      rw [hh] at hun
      exact h.goOn hun rfl rfl hroster

/-- The first half of a release. -/
theorem Sound.runReturned (h : f.Sound limit capacity) {t : Ticket}
    (ht : f.gate.ticket? t.id = some t) (hr : t.run = true) :
    Sound limit capacity { f with gate := (f.gate.dropRun t.id).returnRun } := by
  refine ⟨(h.run.dropRun h.tickets_nodup ht hr).returnRun, ?_, fun u hu hur => ?_, ?_⟩
  · show (f.gate.dropRun t.id).returnRun.freeBacklog
      + (f.gate.dropRun t.id).returnRun.tickets.countP (·.backlog) + f.callers.length = capacity
    rw [freeBacklog_returnRun, tickets_returnRun, countP_backlog_dropRun]
    exact h.backlog
  · rw [tickets_returnRun] at hu
    obtain ⟨v, hv, rfl⟩ := List.mem_map.mp hu
    by_cases hvt : (v.id == t.id) = true
    · rw [if_pos hvt] at hur
      cases hur
    · rw [if_neg hvt] at hur ⊢
      exact h.ordered v hv hur
  · show Roster ((f.gate.dropRun t.id).returnRun.tickets.map (·.id)) f.callers
      ((f.gate.dropRun t.id).returnRun.waiters.map (·.id)) f.fresh
    rw [tickets_returnRun, map_id_dropRun, map_id_returnRun]
    exact h.roster

/-- The second half of a release. -/
theorem Sound.backlogReturned (h : f.Sound limit capacity) {t : Ticket}
    (ht : f.gate.ticket? t.id = some t) (hr : t.run = false) (hb : t.backlog = true) :
    Sound limit capacity { f with gate := (f.gate.dropBacklog t.id).returnBacklog } := by
  refine ⟨h.run.congr rfl (countP_run_dropBacklog _ _) rfl, ?_, fun u hu hur => ?_, ?_⟩
  · have hdrop := countP_backlog_dropBacklog h.tickets_nodup ht hb
    have hback := h.backlog
    show f.gate.freeBacklog + 1 + (f.gate.dropBacklog t.id).tickets.countP (·.backlog)
      + f.callers.length = capacity
    omega
  · obtain ⟨v, hv, rfl⟩ := List.mem_map.mp hu
    by_cases hvt : (v.id == t.id) = true
    · -- the ticket that lets go of its backlog permit has no run permit any more
      have heq : v = t :=
        List.inj_on_of_nodup_map h.tickets_nodup hv (mem_of_ticket? ht) (by simpa using hvt)
      rw [if_pos hvt, heq] at hur
      exact absurd hr (by rw [show t.run = true from hur]; decide)
    · rw [if_neg hvt] at hur ⊢
      exact h.ordered v hv hur
  · show Roster ((f.gate.dropBacklog t.id).tickets.map (·.id)) f.callers
      (f.gate.waiters.map (·.id)) f.fresh
    rw [map_id_dropBacklog]
    exact h.roster

theorem Sound.forgotten (h : f.Sound limit capacity) {t : Ticket}
    (ht : f.gate.ticket? t.id = some t) (hl : t.isReleased = true) :
    Sound limit capacity { f with gate := f.gate.forget t.id } := by
  have hnone : ∀ u ∈ f.gate.tickets, u.id = t.id → u.run = false ∧ u.backlog = false := by
    intro u hu he
    rw [List.inj_on_of_nodup_map h.tickets_nodup hu (mem_of_ticket? ht) he]
    simpa [Ticket.isReleased] using hl
  refine ⟨h.run.congr rfl (countP_forget fun u hu he => (hnone u hu he).1) rfl, ?_,
    fun u hu => h.ordered u (List.mem_filter.mp hu).1,
    h.roster.forget (List.filter_sublist.map _)⟩
  show f.gate.freeBacklog + (f.gate.forget t.id).tickets.countP (·.backlog)
    + f.callers.length = capacity
  rw [countP_forget fun u hu he => (hnone u hu he).2]
  exact h.backlog

/-- A call that has taken no run permit and is not parked. -/
theorem Sound.notMem_waiters (h : f.Sound limit capacity) {c : Caller}
    (hc : f.caller? c.id = some c) (hs : c.stage ≠ .parked) :
    c.id ∉ f.gate.waiters.map (·.id) := h.roster.notMem_parked (mem_of_caller? hc) hs

/-- **WHATEVER MOVE IS MADE, THE INVARIANT HOLDS.** -/
theorem Sound.motion (h : f.Sound limit capacity) {f' : Floor} (hm : Motion f f') :
    f'.Sound limit capacity := by
  have hback := h.backlog
  cases hm with
  | refused => exact ⟨⟨h.run.sum, h.run.saturated⟩, h.backlog, h.ordered, h.roster.skip⟩
  | called hb =>
      refine ⟨⟨h.run.sum, h.run.saturated⟩, ?_, h.ordered, h.roster.call _⟩
      show f.gate.freeBacklog - 1 + f.gate.tickets.countP (·.backlog)
        + (f.callers ++ [_]).length = capacity
      rw [List.length_append, List.length_singleton]
      omega
  | @took c hc hs hr =>
      have hp := h.notMem_waiters hc (by rcases hs with hs | hs <;> simp [hs])
      exact h.issue (mem_of_caller? hc) (h.run.takeRun hr) rfl rfl rfl h.roster hp
  | missed hc hs =>
      have hp := h.notMem_waiters hc (by simp [hs])
      exact h.goOn h.run rfl rfl (h.roster.goOn hp _)
  | turnedBack hc hs =>
      have hp := h.notMem_waiters hc (by simp [hs])
      exact h.goOn h.run rfl rfl (h.roster.goOn hp _)
  | @parked c hc hs hr now =>
      have hp := h.notMem_waiters hc (by simp [hs])
      refine h.goOn (h.run.park c.id now hr) rfl rfl ?_
      rw [park, List.map_append]
      exact h.roster.park (mem_of_caller? hc) hp
  | @tookUp u hu hh =>
      -- the run permit was promised to the waiter, so the pool does not change
      have hmem : u.id ∈ f.gate.waiters.map (·.id) := List.mem_map_of_mem (mem_of_waiter? hu)
      have hun := h.run.unpark h.roster.parked_nodup hu
      rw [hh] at hun
      exact h.issue (h.roster.waiting u.id hmem) hun rfl rfl (map_id_unpark _ _)
        (h.roster.unpark u.id) (by simp)
  | quit hu reason => exact h.quit hu reason
  | @departed c hc reason hs =>
      have hp := h.notMem_waiters hc (by simp [hs])
      have hlen := h.length_finish (mem_of_caller? hc)
      refine ⟨⟨h.run.sum, h.run.saturated⟩, ?_, h.ordered, h.roster.finish hp⟩
      show f.gate.freeBacklog + 1 + f.gate.tickets.countP (·.backlog)
        + (f.callers.filter (·.id != c.id)).length = capacity
      omega
  | runReturned ht hr => exact h.runReturned ht hr
  | backlogReturned ht hr hb => exact h.backlogReturned ht hr hb
  | forgotten ht hl => exact h.forgotten ht hl
  | idle => exact h

/-- **THE INVARIANT HOLDS AFTER ALL MOVES, IN WHATEVER ORDER THEY COME.** -/
theorem Sound.run_moves (h : f.Sound limit capacity) (ms : List Move) :
    (f.run ms).Sound limit capacity := by
  induction ms generalizing f with
  | nil => exact h
  | cons m ms ih => exact ih (h.motion (f.motion m))

theorem sound_ofGate (limit capacity : Nat) (wait : BacklogWait) :
    (ofGate (Gate.ofLimits limit capacity wait)).Sound limit capacity := by
  refine ⟨⟨rfl, fun _ => rfl⟩, rfl, fun t ht => ?_, ⟨List.nodup_nil, fun i hi => ?_,
    List.nodup_nil, fun i hi => ?_⟩⟩
  · cases ht
  · cases hi
  · cases hi

/-! ## §2. How many are parked. -/

theorem Sound.run_le_backlog (h : f.Sound limit capacity) :
    f.gate.tickets.countP (·.run) ≤ f.gate.tickets.countP (·.backlog) :=
  List.countP_mono_left h.ordered

theorem Sound.waiters_le (h : f.Sound limit capacity) :
    f.gate.waiters.length ≤ f.callers.length := by
  have hle := h.roster.length_le
  rwa [List.length_map] at hle

/-- **NO MORE CALLS ARE PARKED WITHOUT A RUN PERMIT THAN THERE ARE BACKLOG PERMITS BEYOND THE RUN
PERMITS.** -/
theorem Sound.line_le (h : f.Sound limit capacity) : f.gate.line.length + limit ≤ capacity
    ∨ f.gate.line = [] := by
  by_cases hr : 0 < f.gate.freeRun
  · exact .inr (h.run.saturated hr)
  · -- all run permits are out, and each of their holders has a backlog permit too
    have hsum := h.run.sum
    have hback := h.backlog
    have hle := h.run_le_backlog
    have hwait := h.waiters_le
    have hsplit := length_promised_add_line f.gate
    left
    omega

/-- **A CALL THAT IS NOT PARKED FINDS A RUN PERMIT** where there are no more backlog permits than
run permits. -/
theorem Sound.freeRun_pos (h : f.Sound limit capacity) (hle : capacity ≤ limit) {c : Caller}
    (hc : c ∈ f.callers) (hs : c.stage ≠ .parked) : 0 < f.gate.freeRun := by
  have hsum := h.run.sum
  have hback := h.backlog
  have hrun := h.run_le_backlog
  have hwait := h.roster.length_lt hc hs
  have hsplit := length_promised_add_line f.gate
  rw [List.length_map] at hwait
  -- every run permit out is paired with a backlog permit, and `c` holds one more of these
  omega

/-- Every call under way is about to take a run permit, and nobody has waited too long. -/
structure Prompt (f : Floor) : Prop where
  callers : ∀ c ∈ f.callers, c.stage = .tryRun
  timeout : f.gate.counters.timeout = 0

theorem Prompt.waiters_eq_nil (hp : f.Prompt) (h : f.Sound limit capacity) :
    f.gate.waiters = [] := by
  refine List.eq_nil_iff_forall_not_mem.mpr fun u hu => ?_
  have hstage := hp.callers _ (h.roster.waiting u.id (List.mem_map_of_mem hu))
  cases hstage

theorem Prompt.motion (hp : f.Prompt) (h : f.Sound limit capacity) (hle : capacity ≤ limit)
    {f' : Floor} (hm : Motion f f') : f'.Prompt := by
  have hwaiters := hp.waiters_eq_nil h
  -- a call is at no other stage than the first, and nobody is parked
  have hstage : ∀ {c : Caller}, f.caller? c.id = some c → c.stage = .tryRun :=
    fun hc => hp.callers _ (mem_of_caller? hc)
  have hparked : ∀ {u : Waiter}, f.gate.waiter? u.id ≠ some u := by
    intro u hu
    have hmem := mem_of_waiter? hu
    rw [hwaiters] at hmem
    cases hmem
  cases hm with
  | @refused reason hr =>
      refine ⟨hp.callers, ?_⟩
      cases reason with
      | capacity => exact hp.timeout
      | timeout ambient =>
          cases ambient with
          | true => exact hp.timeout
          | false => exact absurd rfl hr
  | called =>
      refine ⟨fun c hc => ?_, hp.timeout⟩
      rcases List.mem_append.mp hc with hc | hc
      · exact hp.callers c hc
      · rw [List.mem_singleton.mp hc]
  | took => exact ⟨fun c hc => hp.callers c (List.mem_filter.mp hc).1, hp.timeout⟩
  | missed hc hs hr =>
      have hpos := h.freeRun_pos hle (mem_of_caller? hc) (by simp [hs])
      omega
  | turnedBack hc hs => exact absurd (hstage hc) (by simp [hs])
  | parked hc hs => exact absurd (hstage hc) (by simp [hs])
  | tookUp hu => exact absurd hu hparked
  | quit hu => exact absurd hu hparked
  | departed hc hs => exact absurd (hstage hc) (by simp [hs])
  | runReturned =>
      refine ⟨hp.callers, ?_⟩
      show (returnRun _).counters.timeout = 0
      rw [counters_returnRun]
      exact hp.timeout
  | backlogReturned => exact ⟨hp.callers, hp.timeout⟩
  | forgotten => exact ⟨hp.callers, hp.timeout⟩
  | idle => exact hp

theorem Prompt.run_moves (hp : f.Prompt) (h : f.Sound limit capacity) (hle : capacity ≤ limit)
    (ms : List Move) : (f.run ms).Prompt := by
  induction ms generalizing f with
  | nil => exact hp
  | cons m ms ih => exact ih (hp.motion h hle (f.motion m)) (h.motion (f.motion m))

/-- A call that finds a run permit has its ticket after one move. -/
theorem Sound.ticket?_tryRun (h : f.Sound limit capacity) {c : Caller} (hc : c ∈ f.callers)
    (hs : c.stage = .tryRun) (hr : 0 < f.gate.freeRun) :
    (f.step (.tryRun c.id)).gate.ticket? c.id = some ⟨c.id, true, true⟩ := by
  have hf : f.caller? c.id = some c := find?_of_mem Caller.id h.roster.callers_nodup hc
  obtain ⟨i, stage⟩ := c
  cases hs
  have hstep : f.step (.tryRun i) = f.finish (f.gate.takeRun.issue i) i := by
    simp only [step, hf, if_pos hr]
  have hnone : f.gate.tickets.find? (·.id == i) = none :=
    ticket?_eq_none_iff.mpr (h.roster.notMem_tickets hc)
  rw [hstep]
  show (f.gate.tickets ++ [(⟨i, true, true⟩ : Ticket)]).find? (·.id == i) = _
  rw [List.find?_append, hnone]
  simp

/-! ## §3. Parked calls and the backlog. -/

/-- The calls that hold a run permit: with their tickets, or where they are parked. -/
def runHolders (f : Floor) : List Nat :=
  (f.gate.tickets.filter (·.run)).map (·.id) ++ f.gate.promised.map (·.id)

/-- The calls that hold a backlog permit: with their tickets, or while they are under way. -/
def backlogHolders (f : Floor) : List Nat :=
  (f.gate.tickets.filter (·.backlog)).map (·.id) ++ f.callers.map (·.id)

theorem Sound.backlogHolders_nodup (h : f.Sound limit capacity) : f.backlogHolders.Nodup :=
  h.roster.nodup.sublist ((List.filter_sublist.map _).append_right _)

/-- **WHOEVER HOLDS A RUN PERMIT HOLDS A BACKLOG PERMIT.** -/
theorem Sound.runHolders_subset (h : f.Sound limit capacity) :
    f.runHolders ⊆ f.backlogHolders := by
  intro i hi
  rcases List.mem_append.mp hi with hi | hi
  · obtain ⟨t, ht, rfl⟩ := List.mem_map.mp hi
    obtain ⟨hmem, hr⟩ := List.mem_filter.mp ht
    refine List.mem_append_left _ (List.mem_map_of_mem (List.mem_filter.mpr ⟨hmem, ?_⟩))
    exact h.ordered t hmem hr
  · obtain ⟨u, hu, rfl⟩ := List.mem_map.mp hi
    have hmem : u.id ∈ f.gate.waiters.map (·.id) :=
      List.mem_map_of_mem (List.mem_filter.mp hu).1
    exact List.mem_append_right _ (List.mem_map.mpr ⟨_, h.roster.waiting u.id hmem, rfl⟩)

theorem Sound.freeRun_add (h : f.Sound limit capacity) :
    f.gate.freeRun + f.runHolders.length = limit := by
  have hsum := h.run.sum
  rw [List.countP_eq_length_filter] at hsum
  rw [runHolders, List.length_append, List.length_map, List.length_map]
  omega

theorem Sound.freeBacklog_add (h : f.Sound limit capacity) :
    f.gate.freeBacklog + f.backlogHolders.length = capacity := by
  have hback := h.backlog
  rw [List.countP_eq_length_filter] at hback
  rw [backlogHolders, List.length_append, List.length_map, List.length_map]
  omega

/-- **THE BACKLOG BOUNDS WHO IS PARKED**: what holds of a floor whose gate has the options `o`. -/
structure WithinBacklog (o : Options) (f : Floor) : Prop where
  run_permits : f.gate.freeRun + f.runHolders.length = o.limit.toNat
  backlog_permits :
    f.gate.freeBacklog + f.backlogHolders.length = o.limit.toNat + o.backlogLimit.toNat
  /-- No call holds two backlog permits. -/
  distinct : f.backlogHolders.Nodup
  /-- Whoever holds a run permit holds a backlog permit. -/
  covered : f.runHolders ⊆ f.backlogHolders
  /-- No more calls are parked without a run permit than the backlog allows. -/
  parked : f.gate.line.length ≤ o.backlogLimit.toNat
  /-- Without a backlog, every call that got in finds a run permit at its first try; nobody is
  parked, and nobody has waited too long. -/
  immediate : o.backlogLimit = 0 →
    (∀ c ∈ f.callers, c.stage = .tryRun
      ∧ (f.step (.tryRun c.id)).gate.ticket? c.id = some ⟨c.id, true, true⟩)
    ∧ f.gate.waiters = [] ∧ f.gate.counters.timeout = 0 ∧ f.gate.snapshot.rejectedTimeout = 0

/-- **PARKED CALLS NEVER EXCEED THE BACKLOG**, in whatever order the calls and tickets of an
accepted gate make their moves. -/
theorem parked_within_backlog (o : Options) (g : Gate) (h : Gate.ofOptions o = .ok g)
    (ms : List Move) : WithinBacklog o ((ofGate g).run ms) := by
  have hg := World.eq_of_ofOptions h
  subst hg
  have h0 := sound_ofGate o.limit.toNat (o.limit.toNat + o.backlogLimit.toNat) o.wait
  have hsound := h0.run_moves ms
  constructor
  case run_permits => exact hsound.freeRun_add
  case backlog_permits => exact hsound.freeBacklog_add
  case distinct => exact hsound.backlogHolders_nodup
  case covered => exact hsound.runHolders_subset
  case parked =>
    rcases hsound.line_le with hle | hnil
    · omega
    · rw [hnil]
      exact Nat.zero_le _
  case immediate =>
    intro hzero
    -- without a backlog there are as many tickets as run permits, so nobody queues
    have hle : o.limit.toNat + o.backlogLimit.toNat ≤ o.limit.toNat := by
      rw [hzero]
      exact Nat.le_refl _
    have hstart : (ofGate (Gate.ofLimits o.limit.toNat
        (o.limit.toNat + o.backlogLimit.toNat) o.wait)).Prompt := by
      refine ⟨fun c hc => ?_, rfl⟩
      cases hc
    have hp := hstart.run_moves h0 hle ms
    refine ⟨?_, hp.waiters_eq_nil hsound, hp.timeout, ?_⟩
    · intro c hc
      have hs := hp.callers c hc
      exact ⟨hs, hsound.ticket?_tryRun hc hs (hsound.freeRun_pos hle hc (by simp [hs]))⟩
    · show UInt64.ofNat _ = 0
      rw [hp.timeout]
      rfl

/-- One slot and no backlog.  The call that comes between the two halves of the release is turned
away; the one that comes after both has its ticket at the first try. -/
theorem parked_within_backlog_between_halves :
    let f := (ofGate (Gate.ofLimits 1 1 (.upTo .zero))).run
      [.call false, .tryRun 0, .returnRun 0, .call false, .returnBacklog 0, .call false, .tryRun 2]
    Gate.ofOptions (Options.ofLimit 1) = .ok (Gate.ofLimits 1 1 (.upTo .zero))
      ∧ (Options.ofLimit 1).backlogLimit = 0 ∧ f.gate.counters = ⟨2, 1, 0, 0⟩
      ∧ WithinBacklog (Options.ofLimit 1) f :=
  ⟨rfl, rfl, by decide, parked_within_backlog _ _ rfl _⟩

end Floor

end Admission.Gate

/-
  Admission.Proofs.Gate.Settled — worlds in which nothing is left to do, and what a release does to
  them.

  A world has SETTLED when a poll of any parked call leaves it as it is: none of them was handed a
  run permit, is done, or has waited too long.  Polls settle every world, in whatever order they
  come, since each one that changes something takes a call out of the line.

  Main results:
    * `Sound.settled_iff` — who is parked in a settled world;
    * `Sound.exists_settles` — every world can be settled;
    * `Sound.admitted_eq` — tickets issued are tickets live and tickets released;
    * `release_admits_one` — **a release admits exactly one of those who wait**, the oldest.
-/
import Admission.Proofs.Gate.History
import Admission.Proofs.Gate.Outcome

namespace Admission.Gate

/-! ## §1. Settled worlds. -/

namespace World

/-- No poll changes anything. -/
def Settled (w : World) : Prop := ∀ id, (w.step (.poll id)).1 = w

/-- Polls, in some order, lead from one world to another in which nothing is left to do. -/
def Settles (w w' : World) : Prop := w'.Settled ∧ ∃ ids : List Nat, w' = w.run (ids.map .poll)

variable {w : World}

/-- None of the events that a parked call waits for has come. -/
structure Idle (w : World) (u : Waiter) : Prop where
  going : w.isOver u.id = false
  unserved : u.handed = false
  patient : w.gate.wait.expired u.since w.now = false

theorem step_poll_of_idle {u : Waiter} (hu : w.gate.waiter? u.id = some u) (hi : w.Idle u) :
    w.step (.poll u.id) = (w, some .parked) := by
  have hr : w.gate.resume u.id w.now (w.isOver u.id) = (w.gate, .parked) := by
    simp only [resume, hu, hi.going, hi.unserved, hi.patient, Bool.false_eq_true, if_false]
  rw [step_poll hu, hr]

/-- A poll of a parked call that is not idle takes it out of the line. -/
theorem map_id_poll_of_not_idle {u : Waiter} (hu : w.gate.waiter? u.id = some u)
    (hi : ¬ w.Idle u) : (w.step (.poll u.id)).1.gate.waiters.map (·.id)
      = (w.gate.waiters.map (·.id)).filter (· != u.id) := by
  have hr := resume_resumption w.gate hu w.now (w.isOver u.id)
  rw [step_poll hu]
  show (w.gate.resume u.id w.now (w.isOver u.id)).1.waiters.map _ = _
  generalize w.gate.resume u.id w.now (w.isOver u.id) = out at hr ⊢
  cases hr with
  | ended => exact map_id_leave _ _ _
  | admitted => exact map_id_unpark _ _
  | expired => exact map_id_leave _ _ _
  | parked hd hh he => exact absurd ⟨hd, hh, he⟩ hi

/-- **A WORLD HAS SETTLED WHEN ALL WHO ARE PARKED ARE IDLE.** -/
theorem Sound.settled_iff (h : w.Sound) : w.Settled ↔ ∀ u ∈ w.gate.waiters, w.Idle u := by
  constructor
  · intro hs u hu
    have hf : w.gate.waiter? u.id = some u := find?_of_mem Waiter.id h.balanced.waiters_nodup hu
    by_contra hi
    -- its poll would take it out of the line, but it leaves the world as it is
    have hids := map_id_poll_of_not_idle hf hi
    rw [hs u.id] at hids
    have hmem : u.id ∈ w.gate.waiters.map (·.id) := List.mem_map_of_mem hu
    rw [hids] at hmem
    simpa using (List.mem_filter.mp hmem).2
  · intro hall id
    cases hu : w.gate.waiter? id with
    | none => simp only [World.step, hu]
    | some u =>
        have hid := id_of_waiter? hu
        subst hid
        rw [step_poll_of_idle hu (hall u (mem_of_waiter? hu))]

/-- A poll that changes something makes the line shorter. -/
theorem length_waiters_poll_lt {id : Nat} (hne : (w.step (.poll id)).1 ≠ w) :
    (w.step (.poll id)).1.gate.waiters.length < w.gate.waiters.length := by
  cases hu : w.gate.waiter? id with
  | none => exact absurd (by simp only [World.step, hu]) hne
  | some u =>
      have hid := id_of_waiter? hu
      subst hid
      have hi : ¬ w.Idle u := fun hi => hne (by rw [step_poll_of_idle hu hi])
      have hids := congrArg List.length (map_id_poll_of_not_idle hu hi)
      have hmem : u.id ∈ w.gate.waiters.map (·.id) := List.mem_map_of_mem (mem_of_waiter? hu)
      have hlt : ((w.gate.waiters.map (·.id)).filter (· != u.id)).length
          < (w.gate.waiters.map (·.id)).length :=
        List.length_filter_lt_length_iff_exists.mpr ⟨u.id, hmem, by simp⟩
      rw [List.length_map] at hids hlt
      omega

/-- **EVERY WORLD CAN BE SETTLED.** -/
theorem Sound.exists_settles (h : w.Sound) : ∃ w', w.Settles w' := by
  induction hn : w.gate.waiters.length using Nat.strongRecOn generalizing w with
  | ind n ih =>
      by_cases hs : w.Settled
      · exact ⟨w, hs, [], rfl⟩
      · obtain ⟨id, hid⟩ := not_forall.mp hs
        have hlt := length_waiters_poll_lt hid
        rw [hn] at hlt
        obtain ⟨w', hs', ids, hw'⟩ := ih _ hlt (h.step (.poll id)) rfl
        exact ⟨w', hs', id :: ids, hw'⟩

/-! ## §2. What an observer sees of a settled world. -/

theorem Sound.promised_of_settled (h : w.Sound) (hs : w.Settled) : w.gate.promised = [] := by
  refine List.filter_eq_nil_iff.mpr fun u hu => ?_
  simp [(h.settled_iff.mp hs u hu).unserved]

theorem Sound.inFlight_of_settled (h : w.Sound) (hs : w.Settled) :
    w.gate.inFlight = w.gate.live.length := by
  have hrun := h.balanced.run_sum
  rw [h.promised_of_settled hs, List.length_nil] at hrun
  unfold inFlight
  omega

theorem Sound.waiting_of_settled (h : w.Sound) (hs : w.Settled) :
    w.gate.waiting = w.gate.waiters.length := by
  have hback := h.balanced.backlog_sum
  rw [waiting, pending, h.inFlight_of_settled hs]
  omega

/-- **NO SLOT LIES IDLE WHILE SOMEBODY WAITS.** -/
theorem Sound.length_live_of_waiting (h : w.Sound) (hs : w.Settled)
    (hw : w.gate.waiters ≠ []) : w.gate.live.length = w.gate.limit := by
  have hrun := h.balanced.run_sum
  have hsplit := length_promised_add_line w.gate
  rw [h.promised_of_settled hs, List.length_nil] at hrun hsplit
  -- nobody was handed a run permit, so the line is all who are parked
  have hline : w.gate.line ≠ [] := by
    intro hnil
    rw [hnil, List.length_nil] at hsplit
    exact hw (List.length_eq_zero_iff.mp hsplit.symm)
  have hfree : ¬ 0 < w.gate.freeRun := fun hpos => hline (h.balanced.saturated hpos)
  omega

end World

/-! ## §3. Tickets issued, live and released. -/

/-- How many tickets let go of their permits. -/
def releases (past : List (Nat × Turn)) : Nat := past.countP fun e => e.2 == .released

theorem releases_append (past next : List (Nat × Turn)) :
    releases (past ++ next) = releases past + releases next := List.countP_append

/-- A run permit that is handed over releases nothing. -/
theorem releases_handed (is : List Nat) : releases (is.map (·, .handed)) = 0 := by
  simp [releases, List.countP_map, List.countP_eq_zero]

theorem admitted_recordRejected (c : Counters) (reason : Reason) :
    (c.recordRejected reason).admitted = c.admitted := by
  cases reason with
  | capacity => rfl
  | timeout ambient => cases ambient <;> rfl

theorem length_live_issue (g : Gate) (id : Nat) :
    (g.issue id).live.length = g.live.length + 1 := by
  simp [live, issue, List.filter_append, Ticket.isReleased]

theorem length_live_release {g : Gate} (h : Balanced g 0 0) {t : Ticket}
    (ht : g.ticket? t.id = some t) (hl : t.isReleased = false) :
    (g.release t.id).live.length + 1 = g.live.length := by
  have hback := h.backlog_sum
  have hback' := (h.release t.id).backlog_sum
  have hcap := (Follows.release h t.id).capacity
  have hlen := congrArg List.length (map_id_release h ht hl)
  rw [List.length_map, List.length_map] at hlen
  have hfree : (g.release t.id).freeBacklog = g.freeBacklog + 1 := by
    rw [h.release_of_live ht hl]
    show (g.spend t.id).returnRun.freeBacklog + 1 = _
    unfold returnRun
    cases handFirst (g.spend t.id).waiters <;> rfl
  omega

theorem length_live_forget {g : Gate} (h : Balanced g 0 0) {id : Nat}
    (hid : ∀ t ∈ g.tickets, t.id = id → t.isReleased = true) :
    (g.forget id).live.length = g.live.length := by
  have hback := h.backlog_sum
  have hback' : g.freeBacklog + (g.forget id).live.length + g.waiters.length + 0 = g.capacity :=
    (h.forget hid).backlog_sum
  omega

/-- One step keeps tickets issued equal to tickets live and released. -/
theorem Passage.admitted_eq {g g' : Gate} {n n' : Nat} {own : List (Nat × Turn)}
    (hb : Balanced g 0 0) (hp : Passage g n g' n' own) {k : Nat}
    (hk : g.counters.admitted = g.live.length + k) :
    g'.counters.admitted = g'.live.length + (k + releases own) := by
  cases hp with
  | refused reason =>
      show (g.counters.recordRejected reason).admitted = g.live.length + (k + 0)
      rw [admitted_recordRejected, hk, Nat.add_zero]
  | admitted =>
      show g.counters.admitted + 1 = (g.takeBacklog.takeRun.issue n).live.length + (k + 0)
      rw [length_live_issue, hk]
      show _ = g.live.length + 1 + (k + 0)
      omega
  | entered => exact hk
  | @tookUp u =>
      show g.counters.admitted + 1 = ((g.unpark u.id).issue u.id).live.length + (k + 0)
      rw [length_live_issue, hk]
      show _ = g.live.length + 1 + (k + 0)
      omega
  | @left u _ t reason ht =>
      -- a turn with a reason is not a release
      have hr : releases [(u.id, t)] = 0 := by
        cases t <;> simp [Turn.reason?, releases] at ht ⊢
      rw [counters_leave, admitted_recordRejected, hk, live, live, tickets_leave, hr, Nat.add_zero]
  | released ht hl =>
      have hlen := length_live_release hb ht hl
      rw [counters_release hb ht hl, hk]
      show _ = _ + (k + 1)
      omega
  | @discarded t ht hl =>
      have hlen := length_live_release hb ht hl
      have hforget : ((g.release t.id).forget t.id).live.length = (g.release t.id).live.length :=
        length_live_forget (hb.release t.id) fun _ hu he => isReleased_of_release hu he
      rw [discard_eq]
      show (g.release t.id).counters.admitted = _ + (k + 1)
      rw [counters_release hb ht hl, hk, hforget]
      omega
  | forgotten hid =>
      show g.counters.admitted = _ + (k + 0)
      rw [length_live_forget hb hid, hk, Nat.add_zero]
  | idle => exact hk

/-! ## §4. A release in a settled world. -/

/-- A run permit that comes back goes to the first in line. -/
theorem release_of_line {g : Gate} (h : Balanced g 0 0) {t : Ticket}
    (ht : g.ticket? t.id = some t) (hl : t.isReleased = false) {u : Waiter} {rest : List Waiter}
    (hw : g.waiters = u :: rest) (hu : u.handed = false) :
    g.release t.id = { g.spend t.id with
      waiters := { u with handed := true } :: rest, freeBacklog := g.freeBacklog + 1 } := by
  have hfirst : handFirst (g.spend t.id).waiters = some ({ u with handed := true } :: rest) := by
    show handFirst g.waiters = _
    rw [hw]
    simp only [handFirst, hu, Bool.false_eq_true, if_false]
  rw [h.release_of_live ht hl]
  simp only [returnRun, hfirst]
  rfl

/-- The gate `g'` is `g` with a ticket released or dropped whose run permit went to `u`, the first
of those parked. -/
structure PassedOn (g : Gate) (u : Waiter) (rest : List Waiter) (g' : Gate) : Prop where
  limit : g'.limit = g.limit
  capacity : g'.capacity = g.capacity
  wait : g'.wait = g.wait
  freeRun : g'.freeRun = g.freeRun
  freeBacklog : g'.freeBacklog = g.freeBacklog + 1
  counters : g'.counters = g.counters
  waiters : g'.waiters = { u with handed := true } :: rest

theorem passedOn_release {g : Gate} (h : Balanced g 0 0) {t : Ticket}
    (ht : g.ticket? t.id = some t) (hl : t.isReleased = false) {u : Waiter} {rest : List Waiter}
    (hw : g.waiters = u :: rest) (hu : u.handed = false) :
    PassedOn g u rest (g.release t.id) ∧ PassedOn g u rest (g.discard t.id) := by
  rw [discard_eq, release_of_line h ht hl hw hu]
  exact ⟨⟨rfl, rfl, rfl, rfl, rfl, rfl, rfl⟩, ⟨rfl, rfl, rfl, rfl, rfl, rfl, rfl⟩⟩

/-- What the observer sees once `u` has taken up the run permit that was passed on to it. -/
theorem PassedOn.snapshot_issue {g g' : Gate} {u : Waiter} {rest : List Waiter}
    (h : PassedOn g u rest g') (hw : g.snapshot.waiting ≠ 0) :
    ((g'.unpark u.id).issue u.id).snapshot
      = { g.snapshot with
          waiting := g.snapshot.waiting - 1, admitted := g.snapshot.admitted + 1 } := by
  have hpos : 1 ≤ g.waiting := by
    refine Nat.pos_of_ne_zero fun hz => hw ?_
    show UInt64.ofNat g.waiting = 0
    rw [hz]
    rfl
  have hflight : ((g'.unpark u.id).issue u.id).inFlight = g.inFlight := by
    show g'.limit - g'.freeRun = g.limit - g.freeRun
    rw [h.limit, h.freeRun]
  -- one backlog permit less is out, and the run permit stays out
  have hwaiting : ((g'.unpark u.id).issue u.id).waiting = g.waiting - 1 := by
    show g'.capacity - g'.freeBacklog - ((g'.unpark u.id).issue u.id).inFlight = _
    rw [hflight, h.capacity, h.freeBacklog, waiting, pending]
    omega
  have hcounters : ((g'.unpark u.id).issue u.id).counters = g.counters.recordAdmitted := by
    show g'.counters.recordAdmitted = _
    rw [h.counters]
  have hlimit : ((g'.unpark u.id).issue u.id).limit = g.limit := h.limit
  have hcapacity : ((g'.unpark u.id).issue u.id).capacity = g.capacity := h.capacity
  simp only [snapshot, hflight, hwaiting, hcounters, hlimit, hcapacity, UInt64.ofNat_sub hpos,
    Counters.recordAdmitted, UInt64.ofNat_add, UInt64.ofNat_one]

namespace World

variable {w : World}

/-- **TICKETS ISSUED ARE TICKETS LIVE AND TICKETS RELEASED**, after every run. -/
theorem Sound.admitted_eq (h : w.Sound) (h0 : w.gate.counters.admitted = w.gate.live.length)
    (as : List Action) : (w.run as).gate.counters.admitted
      = (w.run as).gate.live.length + releases (w.history as) := by
  refine history_induction
    (fun w past => w.gate.counters.admitted = w.gate.live.length + releases past)
    (fun {w past} a hs hk => ?_) h h0 as
  have hpass := (hs.passage a).admitted_eq hs.balanced hk
  rwa [releases_append, turns, releases_append, releases_handed, Nat.add_zero]

/-- Polls leave a settled world as it is. -/
theorem Settled.run_polls (hs : w.Settled) (ids : List Nat) : w.run (ids.map .poll) = w := by
  induction ids with
  | nil => rfl
  | cons id ids ih =>
      show World.run (w.step (.poll id)).1 _ = w
      rw [hs id]
      exact ih

/-- Whoever is idle stays so while the gate alone changes, and not in its policy. -/
theorem Idle.with_gate {u : Waiter} (hi : w.Idle u) {g : Gate} (hg : g.wait = w.gate.wait) :
    Idle { w with gate := g } u := by
  refine ⟨hi.going, hi.unserved, ?_⟩
  show g.wait.expired u.since w.now = false
  rw [hg]
  exact hi.patient

section Handover

variable {u : Waiter} {rest : List Waiter} {g : Gate}

/-- The world once `u` has taken up what it was handed at the gate `g`. -/
def served (w : World) (g : Gate) (u : Waiter) : World :=
  { w with gate := (g.unpark u.id).issue u.id }

theorem step_poll_handed (hi : w.Idle u) (hg : PassedOn w.gate u rest g) :
    step { w with gate := g } (.poll u.id) = (w.served g u, some .admitted) := by
  have hu : g.waiter? u.id = some { u with handed := true } := by
    simp [waiter?, hg.waiters]
  have hgoing : isOver { w with gate := g } u.id = false := hi.going
  have hr : g.resume u.id w.now false = ((g.unpark u.id).issue u.id, .admitted) := by
    simp only [resume, hu, Bool.false_eq_true, if_false, if_true]
  rw [step_poll (w := { w with gate := g }) hu, hgoing]
  show (({ w with gate := (g.resume u.id w.now false).1 } : World),
    some (g.resume u.id w.now false).2) = _
  rw [hr]
  rfl

/-- Nobody else has anything to gain from a poll. -/
theorem step_poll_other (hrest : ∀ v ∈ rest, w.Idle v) (hg : PassedOn w.gate u rest g) {id : Nat}
    (hid : id ≠ u.id) :
    (step { w with gate := g } (.poll id)).1 = { w with gate := g } := by
  cases hv : g.waiter? id with
  | none => simp only [World.step, hv]
  | some v =>
      have hvid := id_of_waiter? hv
      subst hvid
      have hmem := mem_of_waiter? hv
      rw [hg.waiters] at hmem
      have hmem : v ∈ rest := by
        rcases List.mem_cons.mp hmem with rfl | hmem
        · exact absurd rfl hid
        · exact hmem
      rw [step_poll_of_idle (w := { w with gate := g }) hv ((hrest v hmem).with_gate hg.wait)]

theorem waiters_served (hn : (u.id :: rest.map (·.id)).Nodup) (hg : PassedOn w.gate u rest g) :
    (w.served g u).gate.waiters = rest := by
  show g.waiters.filter (fun v => v.id != u.id) = rest
  rw [hg.waiters, List.filter_cons_of_neg (by simp)]
  exact filter_ne_of_notMem Waiter.id (List.nodup_cons.mp hn).1

theorem run_polls_handed (hu : w.Idle u) (hrest : ∀ v ∈ rest, w.Idle v)
    (hg : PassedOn w.gate u rest g) (hserved : (w.served g u).Settled) (ids : List Nat) :
    run { w with gate := g } (ids.map .poll) = { w with gate := g }
      ∨ run { w with gate := g } (ids.map .poll) = w.served g u := by
  induction ids with
  | nil => exact .inl rfl
  | cons id ids ih =>
      show run (step { w with gate := g } (.poll id)).1 _ = _
        ∨ run (step { w with gate := g } (.poll id)).1 _ = _
      by_cases hid : id = u.id
      · subst hid
        rw [step_poll_handed hu hg]
        exact .inr (hserved.run_polls ids)
      · rw [step_poll_other hrest hg hid]
        exact ih

/-- **SETTLING AFTER A RELEASE SERVES THE FIRST IN LINE AND NOBODY ELSE**, in whatever order the
calls are polled. -/
theorem Sound.settles_iff (h : w.Sound) (hs : w.Settled) (hw : w.gate.waiters = u :: rest)
    (hg : PassedOn w.gate u rest g) (hsound : Sound { w with gate := g }) (w' : World) :
    Settles { w with gate := g } w' ↔ w' = w.served g u := by
  have hidle := h.settled_iff.mp hs
  rw [hw] at hidle
  have hu : w.Idle u := hidle u (by simp)
  have hrest : ∀ v ∈ rest, w.Idle v := fun v hv => hidle v (by simp [hv])
  have hn := h.balanced.waiters_nodup
  rw [hw, List.map_cons] at hn
  have hpoll := step_poll_handed hu hg
  have hserved : (w.served g u).Settled := by
    have hsound' := hsound.step (.poll u.id)
    rw [hpoll] at hsound'
    refine hsound'.settled_iff.mpr fun v hv => ?_
    rw [waiters_served hn hg] at hv
    exact (hrest v hv).with_gate hg.wait
  constructor
  · rintro ⟨hsettled, ids, rfl⟩
    rcases run_polls_handed hu hrest hg hserved ids with hids | hids
    · -- before its poll, the first in line has a run permit that it has not taken up
      rw [hids] at hsettled
      have hmem : { u with handed := true } ∈ g.waiters := by
        rw [hg.waiters]
        exact List.mem_cons_self
      have hunserved := (hsound.settled_iff.mp hsettled _ hmem).unserved
      cases hunserved
    · exact hids
  · rintro rfl
    refine ⟨hserved, [u.id], ?_⟩
    show w.served g u = (World.step { w with gate := g } (.poll u.id)).1
    rw [hpoll]

end Handover

/-! ## §5. One waiter for one release. -/

/-- **WHAT A RELEASE DOES TO A SETTLED WORLD** of a gate with options `o`, after the turns
`past`. -/
structure AdmitsOne (o : Options) (w : World) (past : List (Nat × Turn)) : Prop where
  /-- While somebody waits, as many tickets are live as may be. -/
  full : w.gate.snapshot.waiting ≠ 0 → w.gate.live.length = o.limit.toNat
    ∧ w.gate.counters.admitted = o.limit.toNat + releases past
  /-- Of the tickets issued, those that were not released are in flight. -/
  balance : releases past ≤ w.gate.counters.admitted
    ∧ w.gate.counters.admitted - releases past = w.gate.snapshot.inFlight.toNat
  /-- The count of tickets issued is shown as a machine word. -/
  shown : w.gate.snapshot.admitted = .ofNat w.gate.counters.admitted
  /-- A live ticket that is released or dropped while somebody waits: once the calls are polled, the
  oldest of them has a ticket, the others wait on, and no other figure has changed. -/
  handover : ∀ t ∈ w.gate.live, ∀ a : Action, a = .release t.id ∨ a = .discard t.id →
    w.gate.snapshot.waiting ≠ 0 → ∃ oldest rest, w.gate.waiters = oldest :: rest
      ∧ (∀ u ∈ rest, oldest.id < u.id) ∧ (∃ w', (w.step a).1.Settles w')
      ∧ ∀ w', (w.step a).1.Settles w' →
          w'.gate.snapshot = { w.gate.snapshot with
            waiting := w.gate.snapshot.waiting - 1, admitted := w.gate.snapshot.admitted + 1 }
          ∧ w'.gate.counters = w.gate.counters.recordAdmitted
          ∧ w'.gate.waiters = rest ∧ w'.gate.holds oldest.id = true

theorem Sound.waiters_ne_nil (h : w.Sound) (hs : w.Settled)
    (hw : w.gate.snapshot.waiting ≠ 0) : w.gate.waiters ≠ [] := by
  intro hnil
  refine hw ?_
  show UInt64.ofNat w.gate.waiting = 0
  rw [h.waiting_of_settled hs, hnil]
  rfl

theorem Sound.handover (h : w.Sound) (hs : w.Settled) (hsorted : w.Sorted) {t : Ticket}
    (ht : t ∈ w.gate.live) {a : Action} (ha : a = .release t.id ∨ a = .discard t.id)
    (hw : w.gate.snapshot.waiting ≠ 0) : ∃ oldest rest, w.gate.waiters = oldest :: rest
      ∧ (∀ u ∈ rest, oldest.id < u.id) ∧ (∃ w', (w.step a).1.Settles w')
      ∧ ∀ w', (w.step a).1.Settles w' →
          w'.gate.snapshot = { w.gate.snapshot with
            waiting := w.gate.snapshot.waiting - 1, admitted := w.gate.snapshot.admitted + 1 }
          ∧ w'.gate.counters = w.gate.counters.recordAdmitted
          ∧ w'.gate.waiters = rest ∧ w'.gate.holds oldest.id = true := by
  obtain ⟨u, rest, hline⟩ := List.exists_cons_of_ne_nil (h.waiters_ne_nil hs hw)
  obtain ⟨hmem, hlive⟩ := List.mem_filter.mp ht
  have hl : t.isReleased = false := by simpa using hlive
  have htick : w.gate.ticket? t.id = some t := find?_of_mem Ticket.id h.balanced.tickets_nodup hmem
  have hu : u.handed = false := by
    refine (h.settled_iff.mp hs u ?_).unserved
    rw [hline]
    exact List.mem_cons_self
  -- released or dropped, the ticket passes its run permit on to `u`
  obtain ⟨g, hstep, hg⟩ : ∃ g, (w.step a).1 = { w with gate := g } ∧ PassedOn w.gate u rest g := by
    obtain ⟨hrel, hdis⟩ := passedOn_release h.balanced htick hl hline hu
    rcases ha with rfl | rfl
    · exact ⟨_, rfl, hrel⟩
    · exact ⟨_, rfl, hdis⟩
  have hsound := h.step a
  rw [hstep] at hsound ⊢
  have hiff := h.settles_iff hs hline hg hsound
  have hn := h.balanced.waiters_nodup
  rw [hline, List.map_cons] at hn
  refine ⟨u, rest, hline, fun v hv => ?_, ⟨_, (hiff _).mpr rfl⟩, fun w' hw' => ?_⟩
  · unfold Sorted at hsorted
    rw [hline, List.map_cons] at hsorted
    exact List.rel_of_pairwise_cons hsorted (List.mem_map_of_mem hv)
  · rw [(hiff w').mp hw']
    refine ⟨hg.snapshot_issue hw, ?_, waiters_served hn hg, ?_⟩
    · show g.counters.recordAdmitted = _
      rw [hg.counters]
    · have hidle := h.settled_iff.mp hs u (by rw [hline]; exact List.mem_cons_self)
      have hserved := hsound.step (.poll u.id)
      rw [step_poll_handed hidle hg] at hserved
      have hticket : (w.served g u).gate.ticket? u.id = some ⟨u.id, true, true⟩ :=
        find?_of_mem (a := ⟨u.id, true, true⟩) Ticket.id hserved.balanced.tickets_nodup
          (List.mem_append_right _ (List.mem_singleton.mpr rfl))
      simp only [holds, hticket, Ticket.isReleased, Bool.not_true, Bool.and_self, Bool.not_false]

/-- **EVERY RELEASE ADMITS EXACTLY ONE OF THOSE WHO WAIT**, in every settled world that a run over
an accepted gate reaches. -/
theorem release_admits_one (o : Options) (g : Gate) (h : Gate.ofOptions o = .ok g)
    (as : List Action) (hs : ((ofGate g).run as).Settled) :
    AdmitsOne o ((ofGate g).run as) ((ofGate g).history as) := by
  obtain ⟨hsound, hlimit, -, -⟩ := sound_of_ofOptions h as
  have hg := eq_of_ofOptions h
  subst hg
  have h0 := ofGate_sound o.limit.toNat (o.limit.toNat + o.backlogLimit.toNat) o.wait
  have hcount := h0.admitted_eq rfl as
  have hsorted := h0.sorted_run List.Pairwise.nil as
  generalize (ofGate _).run as = w at *
  generalize (ofGate _).history as = past at *
  -- settled, every run permit is with a live ticket or in the pool
  have hflight := hsound.inFlight_of_settled hs
  have hle : w.gate.live.length ≤ o.limit.toNat := by
    have := hsound.balanced.run_sum
    omega
  have hword : w.gate.snapshot.inFlight.toNat = w.gate.live.length := by
    show (UInt64.ofNat w.gate.inFlight).toNat = _
    rw [hflight, UInt64.toNat_ofNat_of_lt']
    exact Nat.lt_of_le_of_lt hle o.limit.toNat_lt
  refine ⟨fun hw => ?_, ?_, rfl, fun t ht a ha hw => hsound.handover hs hsorted ht ha hw⟩
  · have hfull := hsound.length_live_of_waiting hs (hsound.waiters_ne_nil hs hw)
    rw [hlimit] at hfull
    exact ⟨hfull, hfull ▸ hcount⟩
  · rw [hword]
    omega

/-- Three calls wait for one slot.  The first of them is dropped after it was handed the slot, which
goes on to the second; the third still waits. -/
theorem release_admits_one_handed_then_dropped :
    let as : List Action :=
      [.arrive ⟨none, ⟨0, []⟩, none⟩, .arrive ⟨none, ⟨1, []⟩, none⟩, .arrive ⟨none, ⟨2, []⟩, none⟩,
        .arrive ⟨none, ⟨3, []⟩, none⟩, .release 0, .abandon 1, .poll 2]
    let w := (ofGate (Gate.ofLimits 1 4 .unbounded)).run as
    Gate.ofOptions ((Options.ofLimit 1).withBacklog 3 .unbounded)
        = .ok (Gate.ofLimits 1 4 .unbounded)
      ∧ w.Settled ∧ w.gate.snapshot.waiting ≠ 0 ∧ (⟨2, true, true⟩ : Ticket) ∈ w.gate.live
      ∧ AdmitsOne ((Options.ofLimit 1).withBacklog 3 .unbounded) w
          ((ofGate (Gate.ofLimits 1 4 .unbounded)).history as) := by
  intro as w
  have hsettled : w.Settled := by
    refine ((ofGate_sound 1 4 .unbounded).run as).settled_iff.mpr fun u hu => ?_
    have hu : u ∈ [(⟨3, .zero, false⟩ : Waiter)] := hu
    rw [List.mem_singleton.mp hu]
    exact ⟨by decide, by decide, by decide⟩
  exact ⟨rfl, hsettled, by decide, by decide, release_admits_one _ _ rfl as hsettled⟩

end World

end Admission.Gate

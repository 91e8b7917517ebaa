/-
  Admission.Proofs.Gate.Refusal — what a refused request leaves behind.

  A request that is turned away at its first poll has moved nothing, wherever that poll gave up: the
  backlog permit that it took, and the place at the end of the line, are undone again within the
  poll.  A parked request that goes without a ticket frees its backlog permit and its place, and a
  run permit that was handed to it goes on to the next who lacks one.

  That next one stands BEHIND it: run permits are handed out from the front of the line, so whoever
  has one stands before all who have none (`HandedFirst`).

  Main results:
    * `Sound.arrive_refused_iff`, `Sound.poll_refused_iff` — who is refused, and for what reason;
    * `Balanced.vacated` — what a parked request leaves behind;
    * `refusals_leave_one_mark` — **a refusal changes one counter, and gives back what was held**.
-/
import Admission.Proofs.Gate.Accounting
import Admission.Proofs.Gate.Books
import Admission.Proofs.Gate.Refinement

namespace Admission

/-! ## §1. One mark. -/

/-- One refusal was counted, for its reason, and nothing else. -/
structure Counters.Marked (c c' : Counters) (reason : Reason) : Prop where
  refused : c'.rejected reason = c.rejected reason + 1
  others : ∀ other, other ≠ reason → c'.rejected other = c.rejected other
  admitted : c'.admitted = c.admitted

namespace Gate

theorem marked_recordRejected (c : Counters) (reason : Reason) :
    c.Marked (c.recordRejected reason) reason := by
  refine ⟨?_, fun other hne => ?_, admitted_recordRejected c reason⟩
  · rw [rejected_recordRejected, if_pos rfl]
  · rw [rejected_recordRejected, if_neg (Ne.symm hne), Nat.add_zero]

/-! ## §2. Run permits are handed out from the front. -/

/-- Whoever has a run permit stands before all who have none. -/
def HandedFirst (ws : List Waiter) : Prop :=
  ws.Pairwise fun u v => v.handed = true → u.handed = true

namespace HandedFirst

theorem filter {ws : List Waiter} (h : HandedFirst ws) (p : Waiter → Bool) :
    HandedFirst (ws.filter p) :=
  List.Pairwise.filter p h

/-- A newcomer has no run permit, and stands at the end. -/
theorem park {ws : List Waiter} (h : HandedFirst ws) (id : Nat) (now : Duration) :
    HandedFirst (ws ++ [⟨id, now, false⟩]) := by
  refine List.pairwise_append.mpr ⟨h, List.pairwise_singleton _ _, fun u _ v hv hh => ?_⟩
  rw [List.mem_singleton.mp hv] at hh
  cases hh

theorem returnRun {g : Gate} (h : HandedFirst g.waiters) : HandedFirst g.returnRun.waiters := by
  have hret := returnRun_runReturn g
  generalize g.returnRun = g' at hret ⊢
  cases hret with
  | toPool => exact h
  | toFirst hg hpre hw =>
      rw [hg] at h
      obtain ⟨hfront, hback, -⟩ := List.pairwise_append.mp h
      -- all before the one that it goes to had theirs
      exact List.pairwise_append.mpr ⟨hfront,
        List.pairwise_cons.mpr ⟨fun _ _ _ => rfl, (List.pairwise_cons.mp hback).2⟩,
        fun u hu _ _ _ => hpre u hu⟩

theorem leave {g : Gate} (h : HandedFirst g.waiters) (u : Waiter) (reason : Reason) :
    HandedFirst (g.leave u reason).waiters := by
  have hun : HandedFirst (g.unpark u.id).waiters := h.filter _
  unfold Gate.leave
  cases u.handed with
  | true => exact hun.returnRun
  | false => exact hun

theorem release {g : Gate} (hb : Balanced g 0 0) (h : HandedFirst g.waiters) {t : Ticket}
    (ht : g.ticket? t.id = some t) (hl : t.isReleased = false) :
    HandedFirst (g.release t.id).waiters := by
  rw [hb.release_of_live ht hl]
  exact returnRun (g := g.spend t.id) h

/-- All before one with a run permit have theirs. -/
theorem handed_of_mem {pre post : List Waiter} {u : Waiter} (h : HandedFirst (pre ++ u :: post))
    (hu : u.handed = true) : ∀ v ∈ pre, v.handed = true :=
  fun v hv => (List.pairwise_append.mp h).2.2 v hv u List.mem_cons_self hu

end HandedFirst

namespace World

variable {w : World}

/-- **ONE STEP KEEPS THE ORDER OF THE LINE.** -/
theorem Sound.handedFirst_step (h : w.Sound) (hl : HandedFirst w.gate.waiters) (a : Action) :
    HandedFirst (w.step a).1.gate.waiters := by
  have hp := h.passage a
  generalize (w.step a).1.gate = g' at hp ⊢
  generalize (w.step a).1.calls.length = n' at hp
  generalize w.ownTurns a = own at hp
  cases hp with
  | refused | admitted | forgotten | idle => exact hl
  | entered => exact hl.park _ _
  | tookUp => exact hl.filter _
  | left => exact hl.leave _ _
  | released ht hr => exact hl.release h.balanced ht hr
  | discarded ht hr => exact hl.release h.balanced ht hr

theorem Sound.handedFirst_run (h : w.Sound) (hl : HandedFirst w.gate.waiters) (as : List Action) :
    HandedFirst (w.run as).gate.waiters := by
  induction as generalizing w with
  | nil => exact hl
  | cons a as ih => exact ih (h.step a) (h.handedFirst_step hl a)

end World

/-! ## §3. What a parked request leaves behind. -/

/-- **WHAT A PARKED REQUEST LEAVES BEHIND** that goes without a ticket, where `pre` stood before it
and `post` behind it. -/
structure Vacated (g g' : Gate) (pre : List Waiter) (u : Waiter) (post : List Waiter)
    (reason : Reason) : Prop where
  limit : g'.limit = g.limit
  capacity : g'.capacity = g.capacity
  wait : g'.wait = g.wait
  tickets : g'.tickets = g.tickets
  /-- Its backlog permit is back. -/
  backlog : g'.freeBacklog = g.freeBacklog + 1
  marked : g.counters.Marked g'.counters reason
  /-- Without a run permit it gives none back. -/
  unserved : u.handed = false → g'.freeRun = g.freeRun ∧ g'.waiters = pre ++ post
  /-- If a run permit was handed to it, all before it have theirs. -/
  ahead : u.handed = true → ∀ v ∈ pre, v.handed = true
  /-- Its run permit is handed to the next who has none, -/
  handedOn : u.handed = true → ∀ mid v rest, post = mid ++ v :: rest →
    (∀ x ∈ mid, x.handed = true) → v.handed = false →
    g'.freeRun = g.freeRun ∧ g'.waiters = pre ++ mid ++ { v with handed := true } :: rest
  /-- and returns to the pool if there is nobody. -/
  returned : u.handed = true → (∀ v ∈ post, v.handed = true) →
    g'.freeRun = g.freeRun + 1 ∧ g'.waiters = pre ++ post

/-- A run permit goes past those who have theirs. -/
theorem handFirst_split {pre : List Waiter} (hpre : ∀ v ∈ pre, v.handed = true) {u : Waiter}
    (hu : u.handed = false) (post : List Waiter) :
    handFirst (pre ++ u :: post) = some (pre ++ { u with handed := true } :: post) := by
  induction pre with
  | nil => simp [handFirst, hu]
  | cons v pre ih =>
      have hrest := ih fun x hx => hpre x (List.mem_cons_of_mem _ hx)
      simp [handFirst, hpre v List.mem_cons_self, hrest]

/-- Those before and behind an entry with a number of its own have other numbers. -/
theorem Balanced.unpark_split {g : Gate} {r b : Nat} (h : Balanced g r b) {pre post : List Waiter}
    {u : Waiter} (hg : g.waiters = pre ++ u :: post) : (g.unpark u.id).waiters = pre ++ post := by
  have hn := h.waiters_nodup
  rw [hg, List.map_append, List.map_cons, List.nodup_append] at hn
  obtain ⟨-, hback, hdisj⟩ := hn
  show g.waiters.filter _ = _
  rw [hg]
  refine filter_ne_split Waiter.id rfl (fun v hv he => ?_) (fun v hv he => ?_)
  · exact hdisj v.id (List.mem_map_of_mem hv) u.id List.mem_cons_self he
  · exact (List.nodup_cons.mp hback).1 (he ▸ List.mem_map_of_mem hv)

/-- The run permit of one that goes comes back before anything else does. -/
theorem leave_of_handed (g : Gate) {u : Waiter} (hu : u.handed = true) (reason : Reason) :
    (g.leave u reason).freeRun = (g.unpark u.id).returnRun.freeRun
      ∧ (g.leave u reason).waiters = (g.unpark u.id).returnRun.waiters := by
  simp only [leave, hu, if_true]
  exact ⟨rfl, rfl⟩

theorem leave_of_not_handed (g : Gate) {u : Waiter} (hu : u.handed = false) (reason : Reason) :
    (g.leave u reason).freeRun = g.freeRun
      ∧ (g.leave u reason).waiters = (g.unpark u.id).waiters := by
  simp only [leave, hu, Bool.false_eq_true, if_false]
  exact ⟨rfl, rfl⟩

/-- **A PARKED REQUEST THAT GOES GIVES BACK WHAT IT HELD.** -/
theorem Balanced.vacated {g : Gate} (h : Balanced g 0 0) (hl : HandedFirst g.waiters)
    {pre post : List Waiter} {u : Waiter} (hg : g.waiters = pre ++ u :: post) (reason : Reason) :
    Vacated g (g.leave u reason) pre u post reason := by
  have hun := h.unpark_split hg
  have hf := Follows.leave g u reason
  have hahead : u.handed = true → ∀ v ∈ pre, v.handed = true := fun hu =>
    HandedFirst.handed_of_mem (hg ▸ hl) hu
  have hmarked : g.counters.Marked (g.leave u reason).counters reason := by
    rw [counters_leave]
    exact marked_recordRejected _ _
  refine ⟨hf.limit, hf.capacity, hf.wait, tickets_leave g u reason, freeBacklog_leave g u reason,
    hmarked, fun hu => ?_, hahead, fun hu mid v rest hpost hmid hv => ?_, fun hu hpost => ?_⟩
  · obtain ⟨hfree, hline⟩ := leave_of_not_handed g hu reason
    exact ⟨hfree, hline.trans hun⟩
  · -- its run permit passes those who stood before it, since all of them have theirs
    have hhand : handFirst (g.unpark u.id).waiters
        = some (pre ++ mid ++ { v with handed := true } :: rest) := by
      rw [hun, hpost, ← List.append_assoc]
      refine handFirst_split (fun x hx => ?_) hv rest
      exact (List.mem_append.mp hx).elim (hahead hu x) (hmid x)
    obtain ⟨hfree, hline⟩ := leave_of_handed g hu reason
    rw [hfree, hline, Gate.returnRun, hhand]
    exact ⟨rfl, rfl⟩
  · have hhand : handFirst (g.unpark u.id).waiters = none := by
      rw [hun, handFirst_eq_none_iff]
      exact fun x hx => (List.mem_append.mp hx).elim (hahead hu x) (hpost x)
    obtain ⟨hfree, hline⟩ := leave_of_handed g hu reason
    rw [hfree, hline, Gate.returnRun, hhand]
    exact ⟨rfl, hun⟩

/-! ## §4. Who is refused. -/

namespace World

variable {w : World}

/-- Why a new request that brings the context `c` is turned away at its first poll. -/
inductive Refuses (w : World) (c : Context) : Reason → Prop where
  | ended (hd : c.isDone w.tokens w.now = true) : Refuses w c (.timeout true)
  | full (hd : c.isDone w.tokens w.now = false) (hb : w.gate.freeBacklog = 0) :
      Refuses w c .capacity
  /-- No slot is free, and there is to be no wait for one. -/
  | noWait (hd : c.isDone w.tokens w.now = false) (hb : 0 < w.gate.freeBacklog)
      (hr : w.gate.freeRun = 0) (hw : w.gate.wait = .upTo .zero) : Refuses w c (.timeout false)

/-- How a parked request goes without a ticket: by which action, and for what reason. -/
inductive Departs (w : World) (u : Waiter) : Action → Reason → Prop where
  | cancelled (hd : w.isOver u.id = true) : Departs w u (.poll u.id) (.timeout true)
  | timedOut (hd : w.isOver u.id = false) (hu : u.handed = false)
      (he : w.gate.wait.expired u.since w.now = true) : Departs w u (.poll u.id) (.timeout false)
  | dropped : Departs w u (.abandon u.id) (.timeout true)

theorem Sound.arrive_refused_iff (h : w.Sound) (c : Context) (reason : Reason) :
    (w.step (.arrive c)).2 = some (.rejected reason) ↔ Refuses w c reason := by
  obtain ⟨g, v, he, hv⟩ := h.entry_arrive c
  rw [hv]
  have hexp := w.gate.wait.expired_self w.now
  constructor
  · intro hr
    -- an entry ends in one way only, and three of the five ways are refusals
    cases he with
    | ended hd =>
        cases hr
        exact .ended hd
    | full hd hb =>
        cases hr
        exact .full hd hb
    | impatient hd hb hf hx =>
        cases hr
        refine .noWait hd hb hf ((BacklogWait.isPatient_eq_false_iff _).mp ?_)
        simpa [hexp] using hx
    | admitted => cases hr
    | parked => cases hr
  · intro hr
    cases hr with
    | ended hd => cases he <;> simp_all
    | full hd hb => cases he <;> simp_all
    | noWait hd hb hf hw =>
        rw [(BacklogWait.isPatient_eq_false_iff _).mpr hw] at hexp
        cases he <;> simp_all

theorem poll_refused_iff {u : Waiter} (hu : w.gate.waiter? u.id = some u) (reason : Reason) :
    (w.step (.poll u.id)).2 = some (.rejected reason) ↔ Departs w u (.poll u.id) reason := by
  have hr := resume_resumption w.gate hu w.now (w.isOver u.id)
  rw [step_poll hu]
  generalize w.gate.resume u.id w.now (w.isOver u.id) = out at hr ⊢
  constructor
  · intro hv
    cases hr with
    | ended hd =>
        cases hv
        exact .cancelled hd
    | expired hd hh hx =>
        cases hv
        exact .timedOut hd hh hx
    | admitted => cases hv
    | parked => cases hv
  · intro hv
    cases hv with
    | cancelled hd => cases hr <;> simp_all
    | timedOut hd hh hx => cases hr <;> simp_all

/-- A parked request that goes leaves the line, and the rest of the world is as it was. -/
theorem step_departs {u : Waiter} (hu : w.gate.waiter? u.id = some u) {a : Action}
    {reason : Reason} (hd : Departs w u a reason) :
    (w.step a).1 = { w with gate := w.gate.leave u reason } := by
  cases hd with
  | cancelled hd =>
      rw [step_poll hu, hd]
      simp only [resume, hu, if_true]
  | timedOut hd hh hx =>
      rw [step_poll hu, hd]
      simp only [resume, hu, hh, hx, Bool.false_eq_true, if_false, if_true]
  | dropped =>
      show World.mk (w.gate.abandon u.id) _ _ _ = _
      rw [abandon_of_some hu]

/-! ## §5. One mark, in every run. -/

/-- **A REFUSED REQUEST LEAVES ONE MARK**, in one world and whoever comes or goes next. -/
structure OneMark (w : World) : Prop where
  arrive_iff : ∀ c reason, (w.step (.arrive c)).2 = some (.rejected reason) ↔ Refuses w c reason
  /-- Turned away at its first poll, a request has moved no permit and nobody in line: one more
  call was made, and one refusal is counted. -/
  arrive : ∀ c reason, (w.step (.arrive c)).2 = some (.rejected reason) →
    ∃ counters, w.gate.counters.Marked counters reason
      ∧ (w.step (.arrive c)).1
        = { w with
            gate := { w.gate with counters := counters }
            calls := w.calls ++ [⟨c, w.now⟩] }
  poll_iff : ∀ u ∈ w.gate.waiters, ∀ reason,
    (w.step (.poll u.id)).2 = some (.rejected reason) ↔ Departs w u (.poll u.id) reason
  /-- Wherever in the line it stood, a parked request that goes gives back what it held. -/
  departs : ∀ pre u post a reason, w.gate.waiters = pre ++ u :: post → Departs w u a reason →
    Vacated w.gate (w.step a).1.gate pre u post reason
      ∧ (w.step a).1 = { w with gate := (w.step a).1.gate }

theorem Sound.oneMark (h : w.Sound) (hl : HandedFirst w.gate.waiters) : OneMark w := by
  have found : ∀ u ∈ w.gate.waiters, w.gate.waiter? u.id = some u := fun u hu =>
    find?_of_mem Waiter.id h.balanced.waiters_nodup hu
  refine ⟨h.arrive_refused_iff, fun c reason hr => ?_, fun u hu => poll_refused_iff (found u hu),
    fun pre u post a reason hg hd => ?_⟩
  · refine ⟨_, marked_recordRejected _ reason, ?_⟩
    show World.mk (w.step (.arrive c)).1.gate _ _ _ = _
    rw [h.gate_arrive_of_rejected c reason hr]
    rfl
  · have hstep := step_departs (found u (by simp [hg])) hd
    rw [hstep]
    exact ⟨h.balanced.vacated hl hg reason, rfl⟩

/-- **REFUSALS LEAVE ONE MARK**, in every world that a run over an accepted gate reaches. -/
theorem refusals_leave_one_mark (o : Options) (g : Gate) (h : Gate.ofOptions o = .ok g)
    (as : List Action) : OneMark ((ofGate g).run as) := by
  have hg := eq_of_ofOptions h
  subst hg
  have hs := ofGate_sound o.limit.toNat (o.limit.toNat + o.backlogLimit.toNat) o.wait
  exact (hs.run as).oneMark (hs.handedFirst_run List.Pairwise.nil as)

/-- Three calls wait for one slot; it is handed to the first, which is cancelled. -/
theorem refusals_leave_one_mark_of_handed :
    Gate.ofOptions ((Options.ofLimit 1).withBacklog 3 .unbounded)
        = .ok (Gate.ofLimits 1 4 .unbounded)
      ∧ OneMark ((ofGate (Gate.ofLimits 1 4 .unbounded)).run
          [.arrive ⟨none, ⟨0, []⟩, none⟩, .arrive ⟨none, ⟨1, []⟩, none⟩,
            .arrive ⟨none, ⟨2, []⟩, none⟩, .arrive ⟨none, ⟨3, []⟩, none⟩, .release 0,
            .cancel ⟨1, []⟩]) :=
  ⟨rfl, refusals_leave_one_mark ((Options.ofLimit 1).withBacklog 3 .unbounded) _ rfl _⟩

end World

end Gate

end Admission

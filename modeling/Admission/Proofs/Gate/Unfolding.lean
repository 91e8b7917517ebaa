/-
  Admission.Proofs.Gate.Unfolding — each step of a world is a run of single moves.

  A world makes a whole poll or a whole release in one step.  Between two of its steps no call is
  under way but those that are parked, and each step can be made move by move.  So a world reaches
  nothing that single moves do not reach, and what holds of every order of moves holds of it.

  Main results:
    * `Sound.exists_moves` — one step of a world;
    * `exists_moves_of_ofOptions` — a whole run over an accepted gate.
-/
import Admission.Proofs.Gate.Floor

namespace Admission.Gate

/-! ## §1. Floors at rest. -/

/-- Calls of which each is parked. -/
def allParked (ids : List Nat) : List Caller := ids.map (⟨·, .parked⟩)

/-- No call is between two of its moves: those under way are parked. -/
def Floor.atRest (g : Gate) (n : Nat) : Floor := ⟨g, allParked (g.waiters.map (·.id)), n⟩

/-- The floor of a world, between two of its steps. -/
def World.floor (w : World) : Floor := .atRest w.gate w.calls.length

theorem map_id_allParked (ids : List Nat) : (allParked ids).map (·.id) = ids := by
  rw [allParked, List.map_map]
  exact List.map_id' ids

theorem allParked_append (ids : List Nat) (i : Nat) :
    allParked (ids ++ [i]) = allParked ids ++ [⟨i, .parked⟩] := by
  simp [allParked]

theorem filter_allParked (ids : List Nat) (i : Nat) :
    (allParked ids).filter (·.id != i) = allParked (ids.filter (· != i)) := by
  rw [allParked, List.filter_map]
  rfl

/-! ## §2. Moves of one call. -/

namespace Floor

section Newcomer

variable {n : Nat} {cs : List Caller} (hn : n ∉ cs.map (·.id)) (g g' : Gate) (s s' : Stage)
  (k : Nat)

include hn

theorem caller?_newcomer : (Floor.mk g (cs ++ [⟨n, s⟩]) k).caller? n = some ⟨n, s⟩ := by
  have hnone : cs.find? (·.id == n) = none := by
    rw [List.find?_eq_none]
    intro c hc he
    have hid : c.id = n := by simpa using he
    exact hn (List.mem_map.mpr ⟨c, hc, hid⟩)
  show (cs ++ [(⟨n, s⟩ : Caller)]).find? (·.id == n) = _
  rw [List.find?_append, hnone]
  simp

theorem goOn_newcomer :
    (Floor.mk g (cs ++ [⟨n, s⟩]) k).goOn g' n s' = ⟨g', cs ++ [⟨n, s'⟩], k⟩ := by
  have hne : ∀ c ∈ cs, c.id ≠ n := fun c hc he => hn (List.mem_map.mpr ⟨c, hc, he⟩)
  have hset : (cs ++ [(⟨n, s⟩ : Caller)]).map (fun c => if c.id == n then c.withStage s' else c)
      = cs ++ [⟨n, s'⟩] := map_ite_split Caller.id (Caller.withStage s') rfl hne (by simp)
  show Floor.mk g' ((cs ++ [(⟨n, s⟩ : Caller)]).map _) k = _
  rw [hset]

/-- The newcomer finds a run permit. -/
theorem newcomer_took (hr : 0 < g.freeRun) :
    (Floor.mk g (cs ++ [⟨n, .tryRun⟩]) k).step (.tryRun n) = ⟨g.takeRun.issue n, cs, k⟩ := by
  have hcut : (cs ++ [(⟨n, .tryRun⟩ : Caller)]).filter (·.id != n) = cs := by
    rw [List.filter_append, filter_ne_of_notMem Caller.id hn]
    simp
  simp only [step, caller?_newcomer hn, if_pos hr, finish, hcut]

/-- The newcomer finds no run permit, twice, and is parked. -/
theorem newcomer_parked (hr : g.freeRun = 0) (now : Duration) :
    ((Floor.mk g (cs ++ [⟨n, .tryRun⟩]) k).step (.tryRun n)).step (.queue n now false)
      = ⟨g.park n now, cs ++ [⟨n, .parked⟩], k⟩ := by
  have hr' : ¬ 0 < g.freeRun := by omega
  have hmissed : (Floor.mk g (cs ++ [⟨n, .tryRun⟩]) k).step (.tryRun n)
      = ⟨g, cs ++ [⟨n, .queue⟩], k⟩ := by
    simp only [step, caller?_newcomer hn, if_neg hr']
    exact goOn_newcomer hn _ _ _ _ _
  rw [hmissed]
  simp only [step, caller?_newcomer hn, if_neg hr', Bool.false_eq_true, if_false]
  exact goOn_newcomer hn _ _ _ _ _

end Newcomer

/-- A parked call that leaves the line and then ends does what it does in one step. -/
theorem depart_quit {g : Gate} {u : Waiter} (hu : g.waiter? u.id = some u) (reason : Reason)
    (k : Nat) : ((atRest g k).quit u reason).step (.depart u.id) = atRest (g.leave u reason) k := by
  have hmem : u.id ∈ g.waiters.map (·.id) := List.mem_map_of_mem (mem_of_waiter? hu)
  have hfind : ∃ c, (atRest g k).callers.find? (·.id == u.id) = some c := by
    rw [← Option.isSome_iff_exists, List.find?_isSome]
    exact ⟨⟨u.id, .parked⟩, List.mem_map.mpr ⟨u.id, hmem, rfl⟩, beq_self_eq_true _⟩
  obtain ⟨c, hc⟩ := hfind
  have hleaving : ((atRest g k).quit u reason).caller? u.id
      = some (c.withStage (.leaving reason)) :=
    find?_map_ite Caller.id (Caller.withStage (.leaving reason)) (fun _ => rfl) hc
  have hrest : ((atRest g k).quit u reason).callers.filter (·.id != u.id)
      = allParked ((g.leave u reason).waiters.map (·.id)) := by
    rw [map_id_leave, ← filter_allParked]
    exact filter_ne_map_ite Caller.id (Caller.withStage (.leaving reason)) (fun _ => rfl) _ _
  simp only [step, hleaving, finish, hrest]
  rfl

/-- A call that is parked gives the floor of the gate that it is parked at. -/
theorem atRest_park (g : Gate) (n : Nat) (now : Duration) (k : Nat) :
    atRest (g.park n now) k
      = ⟨g.park n now, allParked (g.waiters.map (·.id)) ++ [⟨n, .parked⟩], k⟩ := by
  have hids : (g.park n now).waiters.map (·.id) = g.waiters.map (·.id) ++ [n] := by
    rw [park, List.map_append]
    rfl
  rw [atRest, hids, allParked_append]

end Floor

/-! ## §3. Two halves of a release. -/

theorem dropBacklog_returnRun (g : Gate) (id : Nat) :
    (g.dropBacklog id).returnRun = g.returnRun.dropBacklog id := by
  simp only [returnRun, dropBacklog]
  cases handFirst g.waiters <;> rfl

/-- Two halves make a release. -/
theorem dropBacklog_dropRun (g : Gate) (id : Nat) :
    (g.dropRun id).dropBacklog id = g.spend id := by
  have hmap : ((g.tickets.map fun t => if t.id == id then withoutRun t else t).map
      fun t => if t.id == id then withoutBacklog t else t)
        = g.tickets.map fun t => if t.id == id then spent t else t := by
    rw [List.map_map]
    refine List.map_congr_left fun t _ => ?_
    by_cases ht : (t.id == id) = true
    · simp only [Function.comp_apply, if_pos ht]
      exact if_pos ht
    · simp only [Function.comp_apply, if_neg ht]
  simp only [dropRun, dropBacklog, spend, hmap]

/-! ## §4. Whole polls and releases. -/

namespace World

variable {w : World}

/-- **THE FIRST POLL OF A CALL IS A RUN OF SINGLE MOVES.** -/
theorem Sound.exists_moves_arrive (h : w.Sound) (c : Context) :
    ∃ ms, w.floor.run ms = (w.step (.arrive c)).1.floor := by
  have hw : w.calls.length ∉ w.gate.waiters.map (·.id) :=
    fun hm => h.fresh (List.mem_append_right _ hm)
  have hn : w.calls.length ∉ (allParked (w.gate.waiters.map (·.id))).map (·.id) := by
    rw [map_id_allParked]
    exact hw
  have he := enter_entry w.gate hw w.now (c.isDone w.tokens w.now)
  simp only [floor, World.step, List.length_append, List.length_singleton]
  generalize w.gate.enter w.calls.length w.now (c.isDone w.tokens w.now) = out at he ⊢
  have hcall : 0 < w.gate.freeBacklog → w.floor.step (.call false)
      = ⟨w.gate.takeBacklog, allParked (w.gate.waiters.map (·.id))
          ++ [⟨w.calls.length, .tryRun⟩], w.calls.length + 1⟩ := by
    intro hb
    show (if w.gate.freeBacklog = 0 then _ else _) = _
    exact if_neg (Nat.ne_of_gt hb)
  have hpark : 0 < w.gate.freeBacklog → w.gate.freeRun = 0 →
      w.floor.run [.call false, .tryRun w.calls.length, .queue w.calls.length w.now false]
        = .atRest (w.gate.takeBacklog.park w.calls.length w.now) (w.calls.length + 1) := by
    intro hb hr
    show ((w.floor.step (.call false)).step (.tryRun _)).step (.queue _ _ _) = _
    rw [hcall hb, Floor.newcomer_parked hn w.gate.takeBacklog _ hr, Floor.atRest_park]
    rfl
  cases he with
  | ended => exact ⟨[.call true], rfl⟩
  | full hd hb =>
      refine ⟨[.call false], ?_⟩
      show (if w.gate.freeBacklog = 0 then _ else _) = _
      exact if_pos hb
  | admitted hd hb hr =>
      refine ⟨[.call false, .tryRun w.calls.length], ?_⟩
      show (w.floor.step (.call false)).step (.tryRun w.calls.length) = _
      rw [hcall hb, Floor.newcomer_took hn w.gate.takeBacklog _ hr]
      rfl
  | impatient hd hb hr he =>
      -- it is parked, and leaves the line in the same poll, since its timer has run out
      refine ⟨[.call false, .tryRun w.calls.length, .queue w.calls.length w.now false]
        ++ [.wake w.calls.length false true, .depart w.calls.length], ?_⟩
      have hu : (w.gate.takeBacklog.park w.calls.length w.now).waiter? w.calls.length
          = some ⟨w.calls.length, w.now, false⟩ := waiter?_park hw w.now
      have hwake : (Floor.atRest (w.gate.takeBacklog.park w.calls.length w.now)
          (w.calls.length + 1)).step (.wake w.calls.length false true)
            = (Floor.atRest (w.gate.takeBacklog.park w.calls.length w.now)
                (w.calls.length + 1)).quit ⟨w.calls.length, w.now, false⟩ (.timeout false) := by
        simp only [Floor.step, Floor.atRest, hu, Bool.false_eq_true, if_false, if_true]
      rw [Floor.run_append]
      show ((w.floor.run _).step (.wake _ false true)).step (.depart _) = _
      rw [hpark hb hr, hwake, Floor.depart_quit hu, leave_park hw w.now hb]
  | parked hd hb hr he => exact ⟨_, hpark hb hr⟩

/-- **A LATER POLL IS A RUN OF SINGLE MOVES.** -/
theorem exists_moves_poll (w : World) (id : Nat) :
    ∃ ms, w.floor.run ms = (w.step (.poll id)).1.floor := by
  cases hu : w.gate.waiter? id with
  | none => exact ⟨[], by simp only [World.step, hu]; rfl⟩
  | some u =>
      have hid := id_of_waiter? hu
      subst hid
      have hr := resume_resumption w.gate hu w.now (w.isOver u.id)
      simp only [floor, World.step, hu]
      generalize w.gate.resume u.id w.now (w.isOver u.id) = out at hr ⊢
      -- a poll wakes the request, and one that quits departs at once
      cases hr with
      | ended =>
          refine ⟨[.wake u.id true false, .depart u.id], ?_⟩
          have hwake : (Floor.atRest w.gate w.calls.length).step (.wake u.id true false)
              = (Floor.atRest w.gate w.calls.length).quit u (.timeout true) := by
            simp only [Floor.step, Floor.atRest, hu, if_true]
          rw [Floor.run_cons, hwake, Floor.run_cons, Floor.depart_quit hu, Floor.run_nil]
      | admitted _ hh =>
          refine ⟨[.wake u.id false false], ?_⟩
          have hids : ((w.gate.unpark u.id).issue u.id).waiters.map (·.id)
              = (w.gate.waiters.map (·.id)).filter (· != u.id) := map_id_unpark _ _
          simp only [Floor.run_cons, Floor.run_nil, Floor.step, Floor.atRest, hu, hh,
            Bool.false_eq_true, if_false, if_true, Floor.finish, filter_allParked, hids]
      | expired _ hh =>
          refine ⟨[.wake u.id false true, .depart u.id], ?_⟩
          have hwake : (Floor.atRest w.gate w.calls.length).step (.wake u.id false true)
              = (Floor.atRest w.gate w.calls.length).quit u (.timeout false) := by
            simp only [Floor.step, Floor.atRest, hu, hh, Bool.false_eq_true, if_false, if_true]
          rw [Floor.run_cons, hwake, Floor.run_cons, Floor.depart_quit hu, Floor.run_nil]
      | parked => exact ⟨[], rfl⟩

/-- A live ticket gives back what it holds in two moves. -/
theorem Sound.run_release (h : w.Sound) {t : Ticket} (ht : w.gate.ticket? t.id = some t)
    (hl : t.isReleased = false) : w.floor.run [.returnRun t.id, .returnBacklog t.id]
      = .atRest (w.gate.release t.id) w.calls.length := by
  have hp := h.balanced.paired t (mem_of_ticket? ht)
  have hrun : t.run = true := by simpa [isReleased_eq_not_run hp] using hl
  have hback : (withoutRun t).backlog = true := by
    show t.backlog = true
    rw [← hp, hrun]
  -- after the first half the ticket is found without its run permit
  have hhalf : (w.gate.dropRun t.id).returnRun.ticket? t.id = some (withoutRun t) := by
    rw [ticket?, tickets_returnRun]
    exact find?_map_ite Ticket.id withoutRun (fun _ => rfl) ht
  have hids := map_id_release h.balanced ht hl
  have hfirst : w.floor.step (.returnRun t.id)
      = { w.floor with gate := (w.gate.dropRun t.id).returnRun } := by
    simp only [Floor.step, floor, Floor.atRest, ht, if_pos hrun]
  show (w.floor.step (.returnRun t.id)).step (.returnBacklog t.id) = _
  rw [hfirst]
  have hnotrun : (withoutRun t).run = false := rfl
  simp only [Floor.step, hhalf, hback, hnotrun, Bool.not_false, Bool.and_self, if_true]
  rw [Floor.atRest, hids, h.balanced.release_of_live ht hl, ← dropBacklog_returnRun,
    dropBacklog_dropRun]
  rfl

/-- **A RELEASE IS A RUN OF SINGLE MOVES.** -/
theorem Sound.exists_moves_release (h : w.Sound) (id : Nat) :
    ∃ ms, w.floor.run ms = .atRest (w.gate.release id) w.calls.length := by
  by_cases hh : w.gate.holds id = true
  · obtain ⟨t, ht, hl⟩ := exists_ticket_of_holds hh
    have hid := id_of_ticket? ht
    subst hid
    exact ⟨_, h.run_release ht hl⟩
  · rw [release_of_released (h.balanced.isReleased_of_not_holds (by simpa using hh))]
    exact ⟨[], rfl⟩

/-- **SO IS THE DROP OF A TICKET.** -/
theorem Sound.exists_moves_discard (h : w.Sound) (id : Nat) :
    ∃ ms, w.floor.run ms = .atRest (w.gate.discard id) w.calls.length := by
  obtain ⟨ms, hms⟩ := h.exists_moves_release id
  refine ⟨ms ++ [.forget id], ?_⟩
  rw [Floor.run_append, hms]
  show (Floor.atRest (w.gate.release id) w.calls.length).step (.forget id) = _
  cases ht : (w.gate.release id).ticket? id with
  | none =>
      -- nobody has a ticket of that number
      have hcut : (w.gate.release id).tickets.filter (·.id != id) = (w.gate.release id).tickets :=
        filter_ne_of_notMem Ticket.id (ticket?_eq_none_iff.mp ht)
      have hsame : w.gate.discard id = w.gate.release id := by
        rw [discard_eq, forget, hcut]
      simp only [Floor.step, Floor.atRest, ht, hsame]
  | some t =>
      have hl : t.isReleased = true := isReleased_of_release (mem_of_ticket? ht) (id_of_ticket? ht)
      simp only [Floor.step, Floor.atRest, ht, if_pos hl]
      rfl

/-! ## §5. Steps and runs. -/

/-- **EACH STEP OF A WORLD IS A RUN OF SINGLE MOVES.** -/
theorem Sound.exists_moves (h : w.Sound) (a : Action) :
    ∃ ms, w.floor.run ms = (w.step a).1.floor := by
  -- every action of the gate is a short run of moves on the floor
  cases a with
  | arrive c => exact h.exists_moves_arrive c
  | poll id => exact w.exists_moves_poll id
  | release id => exact h.exists_moves_release id
  | discard id => exact h.exists_moves_discard id
  | abandon id =>
      cases hu : w.gate.waiter? id with
      | none =>
          refine ⟨[], ?_⟩
          simp only [World.step, abandon_of_none hu]
          rfl
      | some u =>
          have hid := id_of_waiter? hu
          subst hid
          refine ⟨[.abandon u.id, .depart u.id], ?_⟩
          have hquit : w.floor.step (.abandon u.id) = w.floor.quit u (.timeout true) := by
            simp only [Floor.step, floor, Floor.atRest, hu]
          rw [Floor.run_cons, hquit, Floor.run_cons, floor, Floor.depart_quit hu, Floor.run_nil]
          simp only [World.step, abandon_of_some hu]
          rfl
  | cancel t => exact ⟨[], rfl⟩
  | advance ms => exact ⟨[], rfl⟩

/-- **EACH RUN OF A WORLD IS A RUN OF SINGLE MOVES**, so what holds of all of these holds of it. -/
theorem Sound.exists_moves_run (h : w.Sound) (as : List Action) :
    ∃ ms, w.floor.run ms = (w.run as).floor := by
  induction as generalizing w with
  | nil => exact ⟨[], rfl⟩
  | cons a as ih =>
      obtain ⟨ms, hms⟩ := h.exists_moves a
      obtain ⟨ms', hms'⟩ := ih (h.step a)
      refine ⟨ms ++ ms', ?_⟩
      rw [Floor.run_append, hms]
      exact hms'

/-- **WHATEVER A RUN OVER AN ACCEPTED GATE REACHES, SINGLE MOVES REACH.** -/
theorem exists_moves_of_ofOptions {o : Options} {g : Gate} (h : Gate.ofOptions o = .ok g)
    (as : List Action) : ∃ ms, (Floor.ofGate g).run ms = ((ofGate g).run as).floor := by
  have hg := eq_of_ofOptions h
  subst hg
  exact (ofGate_sound _ _ o.wait).exists_moves_run as

end World

end Admission.Gate

/-
  Admission.Proofs.Session.Handlers — handlers run once, and their slots come back on every exit.

  A handler is called when its request is admitted, and never otherwise; it acts only in polls of its
  own task, from a scene in which that task holds a live ticket; and whatever ends it — its last
  action, a panic, a guard around it, its caller — the ticket is dropped before anybody sees the end.

  Main results:
    * `Told.poll` — what one poll adds to the story of a call;
    * `Sound.told_run` — what the polls of a call have shown after a whole run;
    * `handlers_run_once` — **a handler runs once for a ticket, while that ticket is live, and both
      permits come back when it ends**.
-/
import Mathlib.Data.List.Perm.Subperm
import Admission.Proofs.Session.Sound

namespace Admission.Session

open Gate (Balanced Beside GaveBack)

/-! ## §1. Running handlers hold live tickets. -/

namespace Task

/-- The handler of the request runs. -/
def isRunning (t : Task) : Bool :=
  match t.stage with
  | .running _ _ => true
  | _ => false

theorem isRunning_iff {t : Task} :
    t.isRunning = true ↔ ∃ guards todo, t.stage = .running guards todo := by
  unfold isRunning
  split
  next guards todo hst => exact ⟨fun _ => ⟨guards, todo, hst⟩, fun _ => rfl⟩
  next hn =>
    constructor
    · intro h
      cases h
    · rintro ⟨guards, todo, hst⟩
      exact absurd hst (hn guards todo)

end Task

/-- The requests whose handler runs. -/
def running (x : Session) : List Task := x.tasks.filter (·.isRunning)

/-- Requests with a live ticket each are no more than run permits. -/
theorem length_le_limit {g : Gate} (hb : Balanced g 0 0) {ks : List Nat} (hn : ks.Nodup)
    (hks : ∀ k ∈ ks, (⟨k, true, true⟩ : Ticket) ∈ g.tickets) : ks.length ≤ g.limit := by
  have hsub : ks ⊆ g.live.map (·.id) := by
    intro k hk
    exact List.mem_map.mpr ⟨⟨k, true, true⟩, List.mem_filter.mpr ⟨hks k hk, rfl⟩, rfl⟩
  have hle : ks.length ≤ (g.live.map (·.id)).length := (List.subperm_of_subset hn hsub).length_le
  have hrun := hb.run_sum
  rw [List.length_map] at hle
  omega

namespace Sound

variable {x : Session}

theorem keys_eq_range (h : x.Sound) : x.tasks.map (·.key) = List.range x.tasks.length := by
  refine List.ext_getElem (by rw [List.length_map, List.length_range]) fun i hi hi' => ?_
  rw [List.getElem_map, List.getElem_range]
  rw [List.length_map] at hi
  exact h.keyed i x.tasks[i] (List.getElem?_eq_getElem hi)

/-- A running handler's request holds a live ticket. -/
theorem ticket_of_running (h : x.Sound) {t : Task} (ht : t ∈ x.running) :
    (⟨t.key, true, true⟩ : Ticket) ∈ x.scene.gate.tickets := by
  obtain ⟨hmem, hr⟩ := List.mem_filter.mp ht
  obtain ⟨guards, todo, hst⟩ := Task.isRunning_iff.mp hr
  exact (h.placed t hmem).running guards todo hst

theorem running_keys_nodup (h : x.Sound) (p : Task → Bool) :
    ((x.running.filter p).map (·.key)).Nodup := by
  have hall : (x.tasks.map (·.key)).Nodup := by
    rw [h.keys_eq_range]
    exact List.nodup_range
  exact hall.sublist ((List.filter_sublist.trans List.filter_sublist).map _)

theorem running_le (h : x.Sound) : x.running.length ≤ x.scene.gate.limit := by
  have hn := h.running_keys_nodup fun _ => true
  rw [List.filter_true] at hn
  rw [← List.length_map (f := fun t : Task => t.key)]
  refine length_le_limit h.balanced hn fun k hk => ?_
  obtain ⟨t, ht, rfl⟩ := List.mem_map.mp hk
  exact h.ticket_of_running ht

/-- A handler that acts and all others that run are no more than run permits, in the very scene in
which it acts. -/
theorem acting_le (h : x.Sound) {k : Nat} {g : Gate} (hb : Balanced g 0 0)
    (hbes : Beside k x.scene.gate g) (ht : (⟨k, true, true⟩ : Ticket) ∈ g.tickets) :
    (x.running.filter (·.key != k)).length + 1 ≤ x.scene.gate.limit := by
  have hothers : ∀ i ∈ (x.running.filter (·.key != k)).map (·.key),
      i ≠ k ∧ (⟨i, true, true⟩ : Ticket) ∈ x.scene.gate.tickets := by
    intro i hi
    obtain ⟨t, ht, rfl⟩ := List.mem_map.mp hi
    obtain ⟨hmem, hne⟩ := List.mem_filter.mp ht
    exact ⟨by simpa using hne, h.ticket_of_running hmem⟩
  have hnodup : (k :: (x.running.filter (·.key != k)).map (·.key)).Nodup := by
    refine List.nodup_cons.mpr ⟨fun hm => (hothers k hm).1 rfl, h.running_keys_nodup _⟩
  have hle := length_le_limit hb hnodup fun i hi => by
    rcases List.mem_cons.mp hi with rfl | hi
    · exact ht
    · obtain ⟨hne, hmem⟩ := hothers i hi
      exact (hbes.mem_tickets_iff hne).mpr hmem
  rw [List.length_cons, List.length_map, hbes.limit] at hle
  exact hle

end Sound

/-! ## §2. Permits come back. -/

theorem gaveBack_of_mem {g : Gate} (hb : Balanced g 0 0) {k : Nat}
    (ht : (⟨k, true, true⟩ : Ticket) ∈ g.tickets) : GaveBack k g (g.discard k) :=
  hb.gaveBack_discard (hb.ticket?_of_mem ht) rfl

/-- What a poll that ends a running handler does at the gate. -/
theorem Turn.discards {t : Task} {c : Call} {s : Scene} {out : Task × Scene} (h : Turn t c s out)
    (hf : Fit t) (hr : t.isRunning = true)
    (hend : out.1.isRunning = false) : out.2.gate = s.gate.discard t.key := by
  obtain ⟨guards, todo, hst⟩ := Task.isRunning_iff.mp hr
  -- a request whose handler runs does not ask the gate again
  have hno : ∀ {guards context s0 v}, ¬ Asks t c s guards context s0 v := by
    intro guards' context s0 v hask
    cases hask with
    | enters hf' =>
        rw [hst] at hf'
        cases hf'
    | resumes hp =>
        rw [hst] at hp
        cases hp
  cases h with
  | idle hi =>
      rw [hr] at hend
      cases hend
  | late h =>
      cases h with
      | atOnce hf' =>
          rw [hst] at hf'
          cases hf'
      | parked hp =>
          rw [hst] at hp
          cases hp
      | running => rfl
  | parks h => exact absurd h hno
  | refused h => exact absurd h hno
  | keeps h => exact absurd h hno
  | @acts guards' todo' _ h =>
      cases h with
      | begins h => exact absurd h hno
      | goesOn hp hd =>
          have hq := (hf.running _ _ hp).1
          have hpro := progress_proceed t c guards' s fun hm => hq (List.mem_of_mem_tail hm)
          generalize t.proceed c guards' todo' s = out at hpro hend ⊢
          cases hpro with
          -- it was left running, or its script came to its end and the ticket went with it
          | suspended => cases hend
          | ended => rfl

/-- **WHATEVER ENDS A RUNNING HANDLER**, both permits come back, and nothing else happens at the
gate. -/
theorem Sound.gaveBack {x : Session} (h : x.Sound) (m : Move) {k : Nat} {t u : Task}
    (hk : x.tasks[k]? = some t) (hr : t.isRunning = true) (hu : (x.move m).tasks[k]? = some u)
    (hend : u.isRunning = false) : GaveBack k x.scene.gate (x.move m).scene.gate := by
  have hmem := List.mem_of_getElem? hk
  have hkey := h.keyed k t hk
  have hf := h.fit t hmem
  obtain ⟨guards, todo, hst⟩ := Task.isRunning_iff.mp hr
  obtain ⟨-, c, hc, -⟩ := hf.running guards todo hst
  have hback := gaveBack_of_mem h.balanced ((h.placed t hmem).running guards todo hst)
  rw [hkey] at hback
  rcases fate x m hk with rfl | ⟨-, hm | hm⟩
  · -- it ends in a poll
    have hself := getElem?_onTask_self hk Task.poll
    have hu' : (t.poll x.scene).1 = u := Option.some.inj (hself.symm.trans hu)
    have hgate := (turn_poll hc x.scene).discards hf hr (hu' ▸ hend)
    show GaveBack k x.scene.gate (x.onTask k Task.poll).scene.gate
    rw [onTask_of_some hk]
    show GaveBack k x.scene.gate (t.poll x.scene).2.gate
    rw [hgate, hkey]
    exact hback
  · -- its caller drops it
    rw [hm, onTask_of_some hk]
    show GaveBack k x.scene.gate (t.abort x.scene).2.gate
    unfold Task.abort
    rw [hst]
    show GaveBack k x.scene.gate (x.scene.gate.discard t.key)
    rw [hkey]
    exact hback
  · rw [hm] at hu
    cases hu
    rw [hr] at hend
    cases hend

/-- What has ended without a ticket for its caller holds nothing. -/
theorem Sound.notMem_ids {x : Session} (h : x.Sound) {k : Nat} {t : Task} {c : Call}
    (hk : x.tasks[k]? = some t) (hc : t.job = .call c) (hr : c.reply ≠ .ticket)
    (hst : t.stage = .finished) : k ∉ x.scene.gate.ids := by
  obtain ⟨hw, ht⟩ := (h.placed t (List.mem_of_getElem? hk)).ended hst
  have hkeeper : t.isKeeper = false := by
    unfold Task.isKeeper
    rw [hc]
    simp [hr]
  rw [h.keyed k t hk] at hw ht
  rw [Gate.ids, List.mem_append]
  rintro (hm | hm)
  · exact ht hkeeper hm
  · exact hw hm

/-! ## §3. The story of a call. -/

/-- **HOW FAR THE STORY OF A CALL CAN HAVE COME**: how many tickets it got, and what its polls have
shown.  A handler is called in the poll that brings the ticket; `opening` is what it shows then. -/
inductive Told (policy : Policy) (t : Task) (c : Call) : Nat → List Event → Prop where
  | fresh (hst : t.stage = .fresh) : Told policy t c 0 []
  | parked {guards : List Guard} {context : Option Context}
      (hst : t.stage = .parked guards context) : Told policy t c 0 []
  | refused (hst : t.stage = .finished) (reason : Reason) :
      Told policy t c 0 [Task.refusalEvent t.name c.reply policy reason]
  /-- Its caller drops it before it gets a ticket. -/
  | abandoned (hst : t.stage = .finished) : Told policy t c 0 []
  /-- A guard fires before it gets a ticket. -/
  | late (hst : t.stage = .finished) : Told policy t c 0 [Task.deadlineEvent t.name c.reply]
  /-- Its caller keeps the ticket. -/
  | ticket (hst : t.stage = .finished) (hr : c.reply = .ticket) :
      Told policy t c 1 [.admitted t.name]
  | running {guards : List Guard} {todo : List Action} (hst : t.stage = .running guards todo)
      (hr : c.reply ≠ .ticket) : Told policy t c 1 (opening t.name c.script.actions)
  /-- Its handler returns or panics. -/
  | ended (hst : t.stage = .finished) (hr : c.reply ≠ .ticket) :
      Told policy t c 1 (opening t.name c.script.actions
        ++ [Task.endingEvent t.name c.reply c.script.ending])
  /-- Its caller drops it while its handler runs. -/
  | dropped (hst : t.stage = .finished) (hr : c.reply ≠ .ticket) :
      Told policy t c 1 (opening t.name c.script.actions)
  /-- A guard fires while its handler runs. -/
  | cut (hst : t.stage = .finished) (hr : c.reply ≠ .ticket) :
      Told policy t c 1 (opening t.name c.script.actions
        ++ [Task.deadlineEvent t.name c.reply])

/-- Whether the gate has counted one more ticket. -/
def newTickets (g g' : Gate) : Nat := if g.counters.admitted < g'.counters.admitted then 1 else 0

theorem newTickets_of_eq {g g' : Gate} (h : g'.counters.admitted = g.counters.admitted) :
    newTickets g g' = 0 := by
  unfold newTickets
  rw [h, if_neg (Nat.lt_irrefl _)]

theorem newTickets_of_succ {g g' : Gate} (h : g'.counters.admitted = g.counters.admitted + 1) :
    newTickets g g' = 1 := by
  unfold newTickets
  rw [h, if_pos (Nat.lt_succ_self _)]

theorem counters_keepTicket {s : Scene} (hb : Balanced s.gate 0 0) (name : String) (key : Nat) :
    (s.keepTicket name key).gate.counters = s.gate.counters := by
  rcases Sound.keepTicket_eq s name key with he | ⟨old, -, he⟩
  · rw [he]
  · rw [he]
    exact hb.counters_discard old

namespace Told

variable {policy : Policy} {t : Task} {c : Call} {n : Nat} {es : List Event}

/-- Before its ticket a call has shown nothing. -/
theorem of_asks (h : Told policy t c n es) {s s0 : Scene} {guards : List Guard}
    {context : Option Context} {v : Verdict} (hask : Asks t c s guards context s0 v) :
    n = 0 ∧ es = [] := by
  have hst : t.stage = .fresh ∨ ∃ guards context, t.stage = .parked guards context := by
    cases hask with
    | enters hf => exact .inl hf
    | resumes hp => exact .inr ⟨_, _, hp⟩
  cases h with
  | fresh | parked => exact ⟨rfl, rfl⟩
  | refused h | abandoned h | late h | ticket h | running h | ended h | dropped h | cut h =>
      rw [h] at hst
      rcases hst with hst | ⟨guards', context', hst⟩ <;> cases hst

theorem of_running (h : Told policy t c n es) {guards : List Guard} {todo : List Action}
    (hst : t.stage = .running guards todo) :
    n = 1 ∧ es = opening t.name c.script.actions ∧ c.reply ≠ .ticket := by
  cases h with
  | running _ hr => exact ⟨rfl, rfl, hr⟩
  | fresh h | parked h | refused h | abandoned h | late h | ticket h | ended h | dropped h | cut h =>
      rw [h] at hst
      cases hst

/-- **A DROP** ends the story where it stands. -/
theorem abort (h : Told policy t c n es) (s : Scene) : Told policy (t.abort s).1 c n es := by
  have hfinish : (t.abort s).1 = t.finish := by
    unfold Task.abort
    split <;> rfl
  rw [hfinish]
  cases h with
  | fresh | parked | abandoned => exact .abandoned rfl
  | refused _ reason => exact .refused rfl reason
  | late => exact .late rfl
  | ticket _ hr => exact .ticket rfl hr
  | running _ hr | dropped _ hr => exact .dropped rfl hr
  | ended _ hr => exact .ended rfl hr
  | cut _ hr => exact .cut rfl hr

/-- A guard that fires. -/
theorem fire (h : Told policy t c n es) {s s0 : Scene} (hf : Fires t c s s0) :
    Told policy t.finish c n (es ++ [Task.deadlineEvent t.name c.reply]) := by
  have hnot : t.stage ≠ .finished := by
    intro he
    cases hf with
    | atOnce hst | parked hst | running hst =>
        rw [hst] at he
        cases he
  cases h with
  | fresh | parked => exact .late rfl
  | running _ hr => exact .cut rfl hr
  | refused h | abandoned h | late h | ticket h | ended h | dropped h | cut h => exact absurd h hnot

/-- A handler that acts, after the ticket: whether it goes on or ends. -/
theorem act (policy : Policy) {guards : List Guard} {todo : List Action} {s0 : Scene} {out : Task × Scene}
    (hr : c.reply ≠ .ticket) (hes : es ++ opening t.name todo = opening t.name c.script.actions)
    (hpro : Progress t c guards todo s0 out) :
    ∃ new, out.2.log = s0.log ++ new ∧ Told policy out.1 c 1 (es ++ new) := by
  cases hpro with
  | @suspended left permits =>
      refine ⟨opening t.name todo, rfl, ?_⟩
      rw [hes]
      exact .running rfl hr
  | @ended permits =>
      refine ⟨opening t.name todo ++ [Task.endingEvent t.name c.reply c.script.ending],
        List.append_assoc _ _ _, ?_⟩
      rw [← List.append_assoc, hes]
      exact .ended rfl hr

/-- **WHAT ONE POLL ADDS TO THE STORY OF A CALL**: a ticket, if the gate counted one, and the events
that it shows. -/
theorem poll (h : Told policy t c n es) {s : Scene} (hb : Balanced s.gate 0 0)
    (hp : Placed s.gate t) (hf : Fit t) (hc : t.job = .call c) (hpolicy : s.policy = policy) :
    ∃ got new, newTickets s.gate (t.poll s).2.gate = got ∧ (t.poll s).2.log = s.log ++ new
      ∧ Told policy (t.poll s).1 c (n + got) (es ++ new) := by
  have hturn := turn_poll hc s
  generalize t.poll s = out at hturn ⊢
  cases hturn with
  | idle =>
      refine ⟨0, [], newTickets_of_eq rfl, (List.append_nil _).symm, ?_⟩
      rw [List.append_nil]
      exact h
  | @late s0 hfire =>
      -- if the gate counts anything here, it is a cancelled request
      have hadmitted : s0.gate.counters.admitted = s.gate.counters.admitted := by
        rcases hfire.counters hb hp with ⟨-, he⟩ | ⟨-, he⟩
        · rw [he]
          rfl
        · rw [he]
      exact ⟨0, [_], newTickets_of_eq hadmitted, congrArg (· ++ [_]) hfire.log_eq, h.fire hfire⟩
  | @parks guards context s0 hask =>
      obtain ⟨rfl, rfl⟩ := h.of_asks hask
      exact ⟨0, [], newTickets_of_eq (congrArg Counters.admitted (hask.counters hp)),
        hask.log_eq.trans (List.append_nil _).symm, .parked rfl⟩
  | @refused guards context s0 reason hask =>
      obtain ⟨rfl, rfl⟩ := h.of_asks hask
      have hadmitted : s0.gate.counters.admitted = s.gate.counters.admitted := by
        rw [hask.counters hp]
        exact Gate.admitted_recordRejected s.gate.counters reason
      obtain ⟨gate, tokens, rfl⟩ := hask.exists_eq
      refine ⟨0, [Task.refusalEvent t.name c.reply s.policy reason], newTickets_of_eq hadmitted, rfl,
        ?_⟩
      rw [hpolicy]
      exact .refused rfl reason
  | @keeps guards context s0 hask hr =>
      obtain ⟨rfl, rfl⟩ := h.of_asks hask
      obtain ⟨hb0, -, -⟩ := hask.effect hb hp
      have hkeep : ((s0.record (·.recordAdmitted)).keepTicket t.name t.key).gate.counters.admitted
          = s.gate.counters.admitted + 1 := by
        rw [counters_keepTicket (s := s0.record (·.recordAdmitted)) hb0]
        exact congrArg Counters.admitted (hask.counters hp)
      refine ⟨1, [.admitted t.name], newTickets_of_succ hkeep, ?_, .ticket rfl hr⟩
      exact congrArg (· ++ [_]) (hask.log_kept t.name t.key)
  | @acts guards todo s0 hact =>
      obtain ⟨hb0, -, -, hq, hr⟩ := hact.effect hb hp hf hc
      have hpro := progress_proceed t c guards s0 hq
      have hcounters : (t.proceed c guards todo s0).2.gate.counters = s0.gate.counters := by
        generalize t.proceed c guards todo s0 = out at hpro ⊢
        cases hpro with
        | suspended => rfl
        | ended => exact hb0.counters_discard t.key
      have hlog := hact.log_eq
      cases hact with
      | begins hask hr' =>
          -- the handler is called in the poll that brings the ticket
          obtain ⟨rfl, rfl⟩ := h.of_asks hask
          have hadmitted := congrArg Counters.admitted (hask.counters hp)
          obtain ⟨new, hnew, htold⟩ := act policy hr (List.nil_append _) hpro
          refine ⟨1, new, newTickets_of_succ ?_, ?_, htold⟩
          · rw [hcounters]
            exact hadmitted
          · rw [hnew, hlog]
      | goesOn hst hd =>
          obtain ⟨rfl, rfl, -⟩ := h.of_running hst
          have hquiet : opening t.name todo = [] := opening_of_notMem (hf.running _ _ hst).1
          obtain ⟨new, hnew, htold⟩ := act policy hr (by rw [hquiet, List.append_nil])
            hpro
          exact ⟨0, new, newTickets_of_eq (congrArg Counters.admitted hcounters), hnew, htold⟩

end Told

/-! ## §4. Stories of whole runs. -/

/-- The stories of all calls, and of those that have not come yet. -/
structure Booked (policy : Policy) (x : Session) (got : List Nat) (tale : Nat → List Event) :
    Prop where
  told : ∀ (k : Nat) (t : Task) (c : Call), x.tasks[k]? = some t → t.job = .call c →
    Told policy t c (got.count k) (tale k)
  unborn : ∀ k, x.tasks.length ≤ k → k ∉ got ∧ tale k = []

theorem count_issuedTo_poll (x : Session) (k : Nat) :
    (x.issuedTo (.poll k)).count k = newTickets x.scene.gate (x.move (.poll k)).scene.gate := by
  unfold issuedTo newTickets
  simp only
  split
  · exact List.count_singleton_self
  · rfl

theorem Onward.length_le {x y : Session} (h : Onward x y) : x.tasks.length ≤ y.tasks.length := by
  by_contra hlt
  obtain ⟨u, hu, -⟩ := h.heir y.tasks.length _ (List.getElem?_eq_getElem (by omega))
  rw [List.getElem?_eq_none (Nat.le_refl _)] at hu
  cases hu

section Moves

variable {policy : Policy} {x : Session} {got : List Nat} {tale : Nat → List Event} {k : Nat}

/-- The story of a call that was there before goes on. -/
theorem Booked.told_old (h : Booked policy x got tale) (hs : x.Sound)
    (hpolicy : x.scene.policy = policy) (m : Move) {t u : Task} {c : Call}
    (hk : x.tasks[k]? = some t) (hu : (x.move m).tasks[k]? = some u) (hc : u.job = .call c) :
    Told policy u c ((got ++ x.issuedTo m).count k) (tale k ++ shownBy k x m) := by
  obtain ⟨u', hu', hheir⟩ := (hs.onward m).heir k t hk
  rw [hu] at hu'
  cases hu'
  have hc : t.job = .call c := hheir.job ▸ hc
  have htold := h.told k t c hk hc
  have hmem := List.mem_of_getElem? hk
  rw [List.count_append]
  -- the story goes on by the call's own polls, and the call is ended by a drop
  rcases fate x m hk with rfl | ⟨hnot, hm⟩
  · obtain ⟨new, es, hgot, hlog, hnew⟩ :=
      htold.poll hs.balanced (hs.placed t hmem) (hs.fit t hmem) hc hpolicy
    have hself := getElem?_onTask_self hk Task.poll
    have hue : (t.poll x.scene).1 = u := Option.some.inj (hself.symm.trans hu)
    have hscene := scene_move_poll hk
    rw [count_issuedTo_poll, hscene, hgot, shownBy_poll, shown_of_log (hscene ▸ hlog), ← hue]
    exact hnew
  · rw [List.count_eq_zero_of_not_mem (issuedTo_of_not_polls hnot x), Nat.add_zero,
      shownBy_of_not_polls hnot, List.append_nil]
    rcases hm with hm | hm
    · have hself := getElem?_onTask_self hk Task.abort
      rw [hm, hself] at hu
      rw [← Option.some.inj hu]
      exact htold.abort x.scene
    · rw [hm] at hu
      cases hu
      exact htold

/-- Where there is no task, nothing is issued and nothing is shown. -/
theorem Booked.still_of_none (h : Booked policy x got tale) (m : Move) (hle : x.tasks.length ≤ k) :
    k ∉ got ++ x.issuedTo m ∧ tale k ++ shownBy k x m = [] := by
  obtain ⟨hgot, htale⟩ := h.unborn k hle
  rw [List.mem_append, htale]
  by_cases hp : m.polls k = true
  · rw [polls_iff.mp hp]
    have hidle := move_poll_of_none hle
    have hsilent : shownBy k x (.poll k) = [] := by
      rw [shownBy_poll]
      exact shown_of_log (by rw [hidle, List.append_nil])
    rw [hsilent]
    refine ⟨?_, rfl⟩
    rintro (hm | hm)
    · exact hgot hm
    · unfold issuedTo at hm
      simp only [hidle, Nat.lt_irrefl, if_false, List.not_mem_nil] at hm
  · have hnot : m.polls k = false := by simpa using hp
    rw [shownBy_of_not_polls hnot]
    refine ⟨?_, rfl⟩
    rintro (hm | hm)
    · exact hgot hm
    · exact issuedTo_of_not_polls hnot x hm

/-- **ONE MOVE ADDS TO THE STORIES** what it shows. -/
theorem Booked.move (h : Booked policy x got tale) (hs : x.Sound)
    (hpolicy : x.scene.policy = policy) (m : Move) :
    Booked policy (x.move m) (got ++ x.issuedTo m) (fun k => tale k ++ shownBy k x m) := by
  constructor
  case told =>
    intro k u c hu hc
    by_cases hlt : k < x.tasks.length
    · exact h.told_old hs hpolicy m (List.getElem?_eq_getElem hlt) hu hc
    · -- it has just come
      have hle : x.tasks.length ≤ k := by omega
      obtain ⟨hgot, htale⟩ := h.still_of_none m hle
      rw [List.count_eq_zero_of_not_mem hgot, htale]
      exact .fresh (fresh_of_new m hle hu)
  case unborn =>
    exact fun k hk => h.still_of_none m (Nat.le_trans (hs.onward m).length_le hk)

end Moves

/-- **THE STORIES OF A WHOLE RUN.** -/
theorem Sound.booked_run {x : Session} (h : x.Sound) (hx : x.tasks = []) (ms : List Move) :
    Booked x.scene.policy (x.run ms) (admissions x ms) (fun k => story k x ms) := by
  induction ms using List.reverseRecOn with
  | nil =>
      refine ⟨fun k t c hk => ?_, fun k hk => ⟨List.not_mem_nil, rfl⟩⟩
      rw [run_nil, hx] at hk
      cases hk
  | append_singleton ms m ih =>
      have hstep := ih.move (h.run ms) (h.onward_run ms).policy m
      rw [run_concat]
      unfold admissions story at hstep ⊢
      simp only [trail_concat]
      exact hstep

/-! ## §5. Starts and ends. -/

namespace Event

/-- A handler is called. -/
def isStart : Event → Bool
  | .started _ => true
  | _ => false

/-- A handler has come to its own end. -/
def isEnd : Event → Bool
  | .done _ _ | .panicked _ _ => true
  | _ => false

end Event

theorem isStart_refusalEvent (name : String) (reply : Reply) (policy : Policy) (reason : Reason) :
    (Task.refusalEvent name reply policy reason).isStart = false := by
  cases reply <;> rfl

theorem isStart_deadlineEvent (name : String) (reply : Reply) :
    (Task.deadlineEvent name reply).isStart = false := by
  cases reply <;> rfl

theorem isStart_endingEvent (name : String) (reply : Reply) (ending : Ending) :
    (Task.endingEvent name reply ending).isStart = false := by
  cases ending with
  | value | panic => rfl
  | response => cases reply <;> rfl

theorem isEnd_refusalEvent (name : String) (reply : Reply) (policy : Policy) (reason : Reason) :
    (Task.refusalEvent name reply policy reason).isEnd = false := by
  cases reply <;> rfl

theorem isEnd_deadlineEvent (name : String) (reply : Reply) :
    (Task.deadlineEvent name reply).isEnd = false := by
  cases reply <;> rfl

theorem isEnd_opening {name : String} {todo : List Action} {e : Event}
    (h : e ∈ opening name todo) : e.isEnd = false := by
  unfold opening at h
  split at h
  · rw [List.mem_singleton.mp h]
    rfl
  · cases h

namespace Told

variable {policy : Policy} {t : Task} {c : Call} {n : Nat} {es : List Event}

theorem le_one (h : Told policy t c n es) : n ≤ 1 := by
  cases h <;> decide

/-- **A HANDLER THAT ANNOUNCES ITSELF** has done so once for a ticket, and never without one. -/
theorem countP_isStart (h : Told policy t c n es) (hr : c.reply ≠ .ticket)
    (ha : c.script.actions.head? = some .announce) : es.countP Event.isStart = n := by
  have hopen : opening t.name c.script.actions = [.started t.name] := by
    obtain ⟨rest, he⟩ := List.head?_eq_some_iff.mp ha
    rw [he]
    rfl
  -- a start is told once, by what opens the script; no answer is one
  cases h with
  | fresh | parked | abandoned => rfl
  | refused _ reason =>
      rw [List.countP_singleton, isStart_refusalEvent]
      rfl
  | late =>
      rw [List.countP_singleton, isStart_deadlineEvent]
      rfl
  | ticket _ hr' => exact absurd hr' hr
  | running | dropped =>
      rw [hopen]
      rfl
  | ended =>
      rw [hopen, List.countP_append, List.countP_singleton, List.countP_singleton,
        isStart_endingEvent]
      rfl
  | cut =>
      rw [hopen, List.countP_append, List.countP_singleton, List.countP_singleton,
        isStart_deadlineEvent]
      rfl

end Told

/-- **WHAT A POLL OF A THROTTLED REQUEST SHOWS**, by the stations that it comes to. -/
inductive Shows (t : Task) (c : Call) (s : Scene) : List Event → Prop where
  | silent : Shows t c s []
  | late {s0 : Scene} (h : Fires t c s s0) : Shows t c s [Task.deadlineEvent t.name c.reply]
  | refused {guards : List Guard} {context : Option Context} {s0 : Scene} {reason : Reason}
      (h : Asks t c s guards context s0 (.rejected reason)) :
      Shows t c s [Task.refusalEvent t.name c.reply s.policy reason]
  | keeps : Shows t c s [.admitted t.name]
  /-- The handler announces itself where it begins, and its end is seen where nothing is left. -/
  | acts {guards : List Guard} {todo : List Action} {s0 : Scene}
      (h : Acts t c s guards todo s0) :
      Shows t c s (opening t.name todo ++ if (s0.perform t.name todo).1 = []
        then [Task.endingEvent t.name c.reply c.script.ending] else [])

section Shown

variable {x : Session} {k : Nat} {t : Task} {c : Call}

theorem Sound.shown_of_acts (h : x.Sound) (hk : x.tasks[k]? = some t) (hc : t.job = .call c)
    {guards : List Guard} {todo : List Action} {s0 : Scene}
    (hact : Acts t c x.scene guards todo s0) :
    x.shown (.poll k) = opening t.name todo ++ if (s0.perform t.name todo).1 = []
      then [Task.endingEvent t.name c.reply c.script.ending] else [] := by
  have hmem := List.mem_of_getElem? hk
  obtain ⟨-, -, -, hq, -⟩ := hact.effect h.balanced (h.placed t hmem) (h.fit t hmem) hc
  have hlog := hact.log_eq
  have hpro := progress_proceed t c guards s0 hq
  rw [← hact.poll_eq hc] at hpro
  have hscene := scene_move_poll hk
  generalize t.poll x.scene = out at hpro hscene
  refine shown_of_log ?_
  cases hpro with
  | @suspended left permits hl hq' hperform =>
      rw [hscene, hperform, if_neg hl, List.append_nil, ← hlog]
  | @ended permits hperform =>
      rw [hscene, hperform, if_pos rfl, ← hlog, ← List.append_assoc]
      rfl

/-- **WHAT A POLL SHOWS.** -/
theorem Sound.shows (h : x.Sound) (hk : x.tasks[k]? = some t) (hc : t.job = .call c) :
    Shows t c x.scene (x.shown (.poll k)) := by
  have hscene := scene_move_poll hk
  have hturn := turn_poll hc x.scene
  generalize hout : t.poll x.scene = out at hturn hscene
  have hnew : ∀ {new}, Shows t c x.scene new → out.2.log = x.scene.log ++ new →
      Shows t c x.scene (x.shown (.poll k)) := by
    intro new hshows hlog
    rwa [shown_of_log (by rw [hscene]; exact hlog)]
  cases hturn with
  | idle => exact hnew .silent (List.append_nil _).symm
  | late hfire => exact hnew (.late hfire) (congrArg (· ++ [_]) hfire.log_eq)
  | parks hask => exact hnew .silent (hask.log_eq.trans (List.append_nil _).symm)
  | refused hask =>
      -- neither the log nor the policy has changed on the way to the verdict
      refine hnew (.refused hask) ?_
      obtain ⟨gate, tokens, rfl⟩ := hask.exists_eq
      rfl
  | keeps hask => exact hnew .keeps (congrArg (· ++ [_]) (hask.log_kept t.name t.key))
  | acts hact =>
      rw [h.shown_of_acts hk hc hact]
      exact .acts hact

/-- **THE END OF A HANDLER IS SEEN** exactly when it acts and has nothing left to do. -/
theorem Sound.mem_shown_iff (h : x.Sound) (hk : x.tasks[k]? = some t) (hc : t.job = .call c)
    {e : Event} (he : e.isEnd = true) :
    e ∈ x.shown (.poll k) ↔ ∃ guards todo s0, Acts t c x.scene guards todo s0
      ∧ (s0.perform t.name todo).1 = []
      ∧ Task.endingEvent t.name c.reply c.script.ending = e := by
  constructor
  · intro hm
    -- nothing else that a call shows is an end
    have hother : ∀ d : Event, d.isEnd = false → e ≠ d := by
      rintro d hd rfl
      rw [hd] at he
      cases he
    have hshows := h.shows hk hc
    generalize x.shown (.poll k) = es at hm hshows
    cases hshows with
    | silent => cases hm
    | late => exact absurd (List.mem_singleton.mp hm) (hother _ (isEnd_deadlineEvent _ _))
    | refused => exact absurd (List.mem_singleton.mp hm) (hother _ (isEnd_refusalEvent _ _ _ _))
    | keeps => exact absurd (List.mem_singleton.mp hm) (hother _ rfl)
    | @acts guards todo s0 hact =>
        rcases List.mem_append.mp hm with hm | hm
        · exact absurd rfl (hother e (isEnd_opening hm))
        · split at hm
          next hnil => exact ⟨guards, todo, s0, hact, hnil, (List.mem_singleton.mp hm).symm⟩
          next => cases hm
  · rintro ⟨guards, todo, s0, hact, hnil, rfl⟩
    rw [h.shown_of_acts hk hc hact, if_pos hnil]
    exact List.mem_append_right _ (List.mem_singleton_self _)

end Shown

theorem endingEvent_eq_done_iff {name : String} {reply : Reply} {ending : Ending}
    {v : Json.Value} : Task.endingEvent name reply ending = .done name v ↔ ending = .value v := by
  cases ending with
  | value w =>
      show Event.done name w = .done name v ↔ _
      rw [Event.done.injEq, Ending.value.injEq]
      exact ⟨fun h => h.2, fun h => ⟨rfl, h⟩⟩
  | panic text => exact ⟨nofun, nofun⟩
  | response r => cases reply <;> exact ⟨nofun, nofun⟩

theorem endingEvent_eq_panicked_iff {name : String} {reply : Reply} {ending : Ending}
    {text : String} :
    Task.endingEvent name reply ending = .panicked name text ↔ ending = .panic text := by
  cases ending with
  | value w => exact ⟨nofun, nofun⟩
  | panic text' =>
      show Event.panicked name text' = .panicked name text ↔ _
      rw [Event.panicked.injEq, Ending.panic.injEq]
      exact ⟨fun h => h.2, fun h => ⟨rfl, h⟩⟩
  | response r => cases reply <;> exact ⟨nofun, nofun⟩

/-! ## §6. Handlers run once. -/

/-- **A POLL IN WHICH A HANDLER ACTS**, from the scene `s0` and with `todo` left to do. -/
structure Acted (o : Options) (x : Session) (t : Task) (c : Call) (guards : List Guard)
    (todo : List Action) (s0 : Scene) : Prop where
  /-- Its own request holds a live ticket. -/
  ticket : ∃ u ∈ s0.gate.live, u.id = t.key
  /-- It and the others that run are no more than may run. -/
  atMost : (x.running.filter (·.key != t.key)).length + 1 ≤ o.limit.toNat
  /-- While it acts, nothing happens at the gate. -/
  still : (s0.perform t.name todo).2.gate = s0.gate
  /-- It has more to do, and is suspended. -/
  suspended : ∀ left s1, s0.perform t.name todo = (left, s1) → left ≠ [] →
    t.poll x.scene = ({ t with stage := .running guards left }, s1)
  /-- It returns or panics: first both permits come back, then its end is seen. -/
  ended : ∀ s1, s0.perform t.name todo = ([], s1) → ∃ s2 : Scene,
    GaveBack t.key s0.gate s2.gate ∧ s2.log = s1.log
      ∧ t.poll x.scene = (t.finish, s2.emit (Task.endingEvent t.name c.reply c.script.ending))

theorem Sound.acted {x : Session} (h : x.Sound) {o : Options}
    (hlimit : x.scene.gate.limit = o.limit.toNat) {k : Nat} {t : Task} {c : Call}
    (hk : x.tasks[k]? = some t) (hc : t.job = .call c) {guards : List Guard} {todo : List Action}
    {s0 : Scene} (hact : Acts t c x.scene guards todo s0) : Acted o x t c guards todo s0 := by
  have hmem := List.mem_of_getElem? hk
  obtain ⟨hb0, hbes, hticket, hq, -⟩ :=
    hact.effect h.balanced (h.placed t hmem) (h.fit t hmem) hc
  have hpoll := hact.poll_eq hc
  obtain ⟨left, permits, hperform, -⟩ := perform_eq t.name s0 hq
  constructor
  case ticket => exact ⟨⟨t.key, true, true⟩, List.mem_filter.mpr ⟨hticket, rfl⟩, rfl⟩
  case atMost =>
    rw [← hlimit]
    exact h.acting_le hb0 hbes hticket
  case still => rw [hperform]
  case suspended =>
    intro left' s1 he hne
    rw [hpoll]
    unfold Task.proceed
    rw [he]
    cases left' with
    | nil => exact absurd rfl hne
    | cons a rest => rfl
  case ended =>
    -- the ticket is dropped before the end is shown
    intro s1 he
    rw [hperform] at he
    obtain ⟨rfl, rfl⟩ := Prod.mk.inj he
    refine ⟨Scene.discardTicket { s0 with permits, log := s0.log ++ opening t.name todo } t.key,
      gaveBack_of_mem hb0 hticket, rfl, ?_⟩
    rw [hpoll]
    unfold Task.proceed
    rw [hperform]

/-- **HANDLERS RUN ONCE, AND THEIR SLOTS COME BACK**, over a run from `x₀` with options `o`. -/
structure Handled (o : Options) (x₀ : Session) (ms : List Move) : Prop where
  /-- How many tickets each call got, and what its polls have shown. -/
  told : ∀ (k : Nat) (t : Task) (c : Call), (x₀.run ms).tasks[k]? = some t → t.job = .call c →
    Told x₀.scene.policy t c ((admissions x₀ ms).count k) (story k x₀ ms)
  /-- A handler is called exactly once if its request was admitted, and never otherwise. -/
  once : ∀ (k : Nat) (t : Task) (c : Call), (x₀.run ms).tasks[k]? = some t → t.job = .call c →
    c.reply ≠ .ticket → c.script.actions.head? = some .announce →
    (story k x₀ ms).countP Event.isStart = (admissions x₀ ms).count k
      ∧ (admissions x₀ ms).count k ≤ 1
  /-- Between polls, a handler runs only while its own request holds a live ticket. -/
  holds : ∀ t ∈ (x₀.run ms).running, ∃ u ∈ (x₀.run ms).scene.gate.live, u.id = t.key
  atMost : (x₀.run ms).running.length ≤ o.limit.toNat
  /-- Within a poll, a handler acts only while its own request holds a live ticket. -/
  acted : ∀ (k : Nat) (t : Task) (c : Call), (x₀.run ms).tasks[k]? = some t → t.job = .call c →
    ∀ guards todo s0, Acts t c (x₀.run ms).scene guards todo s0 →
      Acted o (x₀.run ms) t c guards todo s0
  /-- Whatever move ends a running handler, both permits come back, and nothing else happens. -/
  gaveBack : ∀ (m : Move) (k : Nat) (t u : Task), (x₀.run ms).tasks[k]? = some t →
    t.isRunning = true → (x₀.run (ms ++ [m])).tasks[k]? = some u → u.isRunning = false →
    GaveBack k (x₀.run ms).scene.gate (x₀.run (ms ++ [m])).scene.gate
  /-- A call that has ended in whatever way holds nothing. -/
  ended : ∀ (k : Nat) (t : Task) (c : Call), (x₀.run ms).tasks[k]? = some t → t.job = .call c →
    c.reply ≠ .ticket → t.stage = .finished → k ∉ (x₀.run ms).scene.gate.ids
  /-- The call yields a value exactly when its handler has come to its end with this value. -/
  yields : ∀ (k : Nat) (t : Task) (c : Call) (v : Json.Value),
    (x₀.run ms).tasks[k]? = some t → t.job = .call c →
    (.done t.name v ∈ (x₀.run ms).shown (.poll k) ↔ ∃ guards todo s0,
      Acts t c (x₀.run ms).scene guards todo s0 ∧ (s0.perform t.name todo).1 = []
        ∧ c.script.ending = .value v)
  /-- A panic reaches the caller exactly when the handler has come to it. -/
  panics : ∀ (k : Nat) (t : Task) (c : Call) (text : String),
    (x₀.run ms).tasks[k]? = some t → t.job = .call c →
    (.panicked t.name text ∈ (x₀.run ms).shown (.poll k) ↔ ∃ guards todo s0,
      Acts t c (x₀.run ms).scene guards todo s0 ∧ (s0.perform t.name todo).1 = []
        ∧ c.script.ending = .panic text)

/-- **HANDLERS RUN EXACTLY ONCE AND SLOTS COME BACK ON EVERY EXIT**, in every run over an accepted
gate. -/
theorem handlers_run_once (o : Options) (g : Gate) (h : Gate.ofOptions o = .ok g)
    (policy : Policy) (site : Site) (metrics : Option Metrics) (ms : List Move) :
    Handled o (ofGate g policy site metrics) ms := by
  have hstart := ofGate_sound h policy site metrics
  have hsound := hstart.run ms
  have hbooked := hstart.booked_run rfl ms
  -- the limit of the gate never changes
  have hlimit : ((ofGate g policy site metrics).run ms).scene.gate.limit = o.limit.toNat := by
    rw [(hstart.onward_run ms).limit, show (ofGate g policy site metrics).scene.gate = g from rfl,
      Gate.World.eq_of_ofOptions h]
    rfl
  constructor
  case told => exact hbooked.told
  case once =>
    intro k t c hk hc hr ha
    have htold := hbooked.told k t c hk hc
    exact ⟨htold.countP_isStart hr ha, htold.le_one⟩
  case holds =>
    intro t ht
    exact ⟨_, List.mem_filter.mpr ⟨hsound.ticket_of_running ht, rfl⟩, rfl⟩
  case atMost =>
    rw [← hlimit]
    exact hsound.running_le
  case acted => exact fun k t c hk hc guards todo s0 hact => hsound.acted hlimit hk hc hact
  case gaveBack =>
    intro m k t u hk hr hu hend
    rw [run_concat] at hu ⊢
    exact hsound.gaveBack m hk hr hu hend
  case ended =>
    exact fun k t c hk hc hr hst => hsound.notMem_ids hk hc hr hst
  case yields =>
    intro k t c v hk hc
    rw [hsound.mem_shown_iff hk hc rfl]
    simp only [endingEvent_eq_done_iff]
  case panics =>
    intro k t c text hk hc
    rw [hsound.mem_shown_iff hk hc rfl]
    simp only [endingEvent_eq_panicked_iff]

/-- Two calls come to a gate with one slot and wait in turn; the handler of the first panics, that
of the second returns. -/
theorem handlers_run_once_after_panic :
    let x₀ := ofGate (Gate.ofLimits 1 2 .unbounded) .standard ⟨.zero, none⟩ none
    let ms : List Move :=
      [.tell (.handle "a" none ⟨true, none, some "boom", .null⟩),
        .tell (.handle "b" none ⟨false, none, none, .null⟩), .poll 0, .poll 1,
        .tell (.finish "a"), .poll 0, .poll 1]
    Gate.ofOptions ((Options.ofLimit 1).withBacklog 1 .unbounded)
        = .ok (Gate.ofLimits 1 2 .unbounded)
      ∧ admissions x₀ ms = [0, 1]
      ∧ (story 0 x₀ ms).countP Event.isStart = 1 ∧ (story 0 x₀ ms).countP Event.isEnd = 1
      ∧ (story 1 x₀ ms).countP Event.isStart = 1 ∧ (story 1 x₀ ms).countP Event.isEnd = 1
      ∧ Handled ((Options.ofLimit 1).withBacklog 1 .unbounded) x₀ ms := by
  intro x₀ ms
  refine ⟨rfl, ?_, ?_, ?_, ?_, ?_, handlers_run_once _ _ rfl _ _ _ ms⟩
  all_goals decide +kernel

end Admission.Session

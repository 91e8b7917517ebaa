/-
  Admission.Proofs.Session.Account — the accounts of requests to a router.

  Where the gate is used through routers only, whoever asks there is an HTTP request, and its inner
  service is called in the poll in which it is admitted.  An ACCOUNT of a request is what all moves
  of a run have written about it: how often its inner service was called, how it was closed, and what
  its polls have shown.

  Main results:
    * `Routed.run` — where only routers use the gate, whoever asks there wants an HTTP answer;
    * `Account.entry` — an entry keeps an account in order;
    * `Ledgered.move`, `Sound.ledgered_run` — **the accounts of all requests, after a move and after a
      whole run**.
-/
import Admission.Proofs.Session.Closing

namespace Admission.Session

/-! ## §1. Requests to a router. -/

/-- The command does not bring a call to the gate but through a router. -/
def Command.isRouted : Command → Bool
  | .acquire _ _ | .handle _ _ _ => false
  | _ => true

def Move.isRouted : Move → Bool
  | .tell c => c.isRouted
  | _ => true

/-- Whoever asks at the gate wants an HTTP answer. -/
def Routed (x : Session) : Prop :=
  ∀ t ∈ x.tasks, ∀ c, t.job = .call c → ∃ frame, c.reply = .http frame

section Arrivals

variable {x : Session} {m : Move} {k : Nat} {t u : Task} {c : Call}

theorem job_of_addTask {name : String} {job : Job} (hn : x.tasks.length ≤ k)
    (hu : (x.addTask name job).tasks[k]? = some u) : u.job = job := by
  have hu : (x.tasks ++ [⟨x.tasks.length, name, job, .fresh⟩])[k]? = some u := hu
  rw [List.getElem?_append_right hn] at hu
  obtain ⟨hlt, he⟩ := List.getElem?_eq_some_iff.mp hu
  simp only [List.getElem_singleton] at he
  rw [← he]

theorem length_onTask (x : Session) (k : Nat) (f : Task → Scene → Task × Scene) :
    (x.onTask k f).tasks.length = x.tasks.length := by
  unfold onTask
  split
  · exact List.length_set
  · rfl

theorem length_releaseKept (x : Session) (name : String) :
    (x.releaseKept name).1.tasks.length = x.tasks.length := by
  unfold releaseKept
  split
  · rfl
  · split <;> rfl

theorem length_dropNamed (x : Session) (name : String) :
    (x.dropNamed name).1.tasks.length = x.tasks.length := by
  unfold dropNamed
  split
  · rfl
  · split
    next tasks scene ha =>
      obtain ⟨k, t, -, hout⟩ := exists_of_abortFirst ha
      obtain ⟨rfl, rfl⟩ := Prod.mk.inj hout
      exact List.length_set
    next => rfl

/-- A call that a routed command brings wants an HTTP answer. -/
theorem exists_frame_of_apply {d : Command} (hs : d.isStill = true) (hd : d.isRouted = true)
    (hn : x.tasks.length ≤ k) (hu : (x.apply d).1.tasks[k]? = some u) (hc : u.job = .call c) :
    ∃ frame, c.reply = .http frame := by
  have hsame : ∀ {y : Session}, y.tasks.length = x.tasks.length → y.tasks[k]? = some u → False := by
    intro y hy hu
    rw [List.getElem?_eq_none (by omega)] at hu
    cases hu
  -- of the commands that a router takes, only requests make calls
  cases d with
  | acquire | handle => cases hd
  | advance | batch => cases hs
  | layer name context handler deadlines request =>
      simp only [apply, layerJob_eq] at hu
      cases (job_of_addTask hn hu).symm.trans hc
      exact ⟨_, rfl⟩
  | http name context request =>
      simp only [apply] at hu
      have hjob := (job_of_addTask hn hu).symm.trans hc
      rcases siteJob_cases x.site (x.context? context) request with he | he
      · cases he.symm.trans hjob
      · cases he.symm.trans hjob
        exact ⟨_, rfl⟩
  | watch name context =>
      simp only [apply] at hu
      split at hu
      · cases (job_of_addTask hn hu).symm.trans hc
      · exact (hsame rfl hu).elim
  | report interval =>
      simp only [apply] at hu
      cases (job_of_addTask hn hu).symm.trans hc
  | context | finish =>
      simp only [apply] at hu
      exact (hsame rfl hu).elim
  | cancel | metrics =>
      simp only [apply] at hu
      split at hu <;> exact (hsame rfl hu).elim
  | release name =>
      simp only [apply] at hu
      exact (hsame (length_releaseKept x name) hu).elim
  | drop name =>
      simp only [apply] at hu
      exact (hsame (length_dropNamed x name) hu).elim

theorem exists_frame_of_new (hm : m.isRouted = true) (hn : x.tasks.length ≤ k)
    (hu : (x.move m).tasks[k]? = some u) (hc : u.job = .call c) :
    ∃ frame, c.reply = .http frame := by
  have hsame : (x.move m).tasks.length = x.tasks.length → ∃ frame, c.reply = .http frame := by
    intro hy
    rw [List.getElem?_eq_none (by omega)] at hu
    cases hu
  cases m with
  | poll j => exact hsame (length_onTask x j Task.poll)
  | drop j => exact hsame (length_onTask x j Task.abort)
  | advance ms => exact hsame rfl
  | tell d =>
      by_cases hs : d.isStill = true
      · rw [show x.move (.tell d) = (x.apply d).1 from if_pos hs] at hu
        exact exists_frame_of_apply hs hm hn hu hc
      · exact hsame (congrArg (fun y : Session => y.tasks.length) (if_neg hs))

theorem Routed.move (h : x.Routed) (hs : x.Sound) (hm : m.isRouted = true) :
    (x.move m).Routed := by
  intro u hu c hc
  obtain ⟨k, hk⟩ := List.mem_iff_getElem?.mp hu
  by_cases hlt : k < x.tasks.length
  · obtain ⟨u', hu', hheir⟩ := (hs.onward m).heir k _ (List.getElem?_eq_getElem hlt)
    rw [hk] at hu'
    cases hu'
    exact h _ (List.getElem_mem hlt) c (hheir.job ▸ hc)
  · exact exists_frame_of_new hm (by omega) hk hc

theorem Routed.run (h : x.Routed) (hs : x.Sound) {ms : List Move}
    (hms : ∀ m ∈ ms, m.isRouted = true) : (x.run ms).Routed := by
  induction ms generalizing x with
  | nil => exact h
  | cons m ms ih =>
      exact ih (h.move hs (hms m List.mem_cons_self)) (hs.move m)
        fun m' hm' => hms m' (List.mem_cons_of_mem _ hm')

theorem Routed.reply_ne (h : x.Routed) (hk : x.tasks[k]? = some t) (hc : t.job = .call c) :
    c.reply ≠ .ticket := by
  obtain ⟨frame, hf⟩ := h t (List.mem_of_getElem? hk) c hc
  rw [hf]
  nofun

end Arrivals

/-! ## §2. Entries of moves. -/

section Moves

variable {x : Session} {m : Move} {k : Nat} {t : Task} {c : Call}

/-- **A POLL WRITES AN ENTRY** about the request that it polls. -/
theorem Sound.entry_of_poll (h : x.Sound) (hr : x.Routed) (hk : x.tasks[k]? = some t)
    (hc : t.job = .call c) :
    Entry x.scene.policy t c x.scene.gate.counters (t.poll x.scene).1
      (x.move (.poll k)).scene.gate.counters (x.shown (.poll k)) (t.isCalled x.scene)
      (x.closing? (.poll k) k) := by
  have hmem := List.mem_of_getElem? hk
  obtain ⟨new, hlog, hentry⟩ := entry_poll h.balanced (h.placed t hmem) (h.fit t hmem) hc
    (hr.reply_ne hk hc)
  have hscene := scene_move_poll hk
  have hself : (x.move (.poll k)).tasks[k]? = some (t.poll x.scene).1 :=
    getElem?_onTask_self hk Task.poll
  rw [shown_of_log (hscene ▸ hlog), hscene,
    closing?_of_call hk hself hc, polls_iff.mpr rfl, if_pos rfl]
  exact hentry

/-- **A DROP WRITES AN ENTRY** about the request that it drops. -/
theorem Sound.entry_of_drop (h : x.Sound) (hk : x.tasks[k]? = some t) (hc : t.job = .call c)
    (hm : m.polls k = false) (he : x.move m = x.onTask k Task.abort) :
    Entry x.scene.policy t c x.scene.gate.counters (t.abort x.scene).1
      (x.move m).scene.gate.counters [] false (x.closing? m k) := by
  have hself := getElem?_onTask_self hk Task.abort
  have hscene : (x.move m).scene = (t.abort x.scene).2 := by
    rw [he, onTask_of_some hk]
  rw [hscene, closing?_of_call hk (he ▸ hself) hc, hm, if_neg Bool.false_ne_true]
  by_cases hst : t.stage = .finished
  · -- it had ended before
    have hidle : t.abort x.scene = (t, x.scene) := by
      unfold Task.abort
      rw [hst]
      exact Prod.ext (finish_of_finished hst) rfl
    rw [hidle, Bool.not_and_self]
    exact .rests
  · have hends : (t.abort x.scene).1.isFinished = true := by
      rw [finish_abort]
      rfl
    rw [isFinished_of_ne hst, hends]
    exact entry_abort h.balanced (h.placed t (List.mem_of_getElem? hk)) hst x.scene.policy

end Moves

/-! ## §3. Accounts. -/

/-- **THE ACCOUNT OF A REQUEST**: how often its inner service was called, how it was closed, and what
its polls have shown. -/
inductive Account (policy : Policy) (t : Task) (c : Call) :
    Nat → List Closing → List Event → Prop where
  | fresh (hst : t.stage = .fresh) : Account policy t c 0 [] []
  | parked {guards : List Guard} {context : Option Context}
      (hst : t.stage = .parked guards context) : Account policy t c 0 [] []
  | running {guards : List Guard} {todo : List Action} (hst : t.stage = .running guards todo) :
      Account policy t c 1 [] (opening t.name c.script.actions)
  /-- The gate refuses it, and the refusal is answered. -/
  | refused (hst : t.stage = .finished) {w : Whence} (hw : w ≠ .called) (reason : Reason) :
      Account policy t c 0 [⟨t.key, w, .refused reason⟩]
        [Task.refusalEvent t.name c.reply policy reason]
  /-- A guard answers before the inner service is called. -/
  | late (hst : t.stage = .finished) {w : Whence} (hw : w ≠ .called) :
      Account policy t c 0 [⟨t.key, w, .late⟩] [Task.deadlineEvent t.name c.reply]
  /-- Its caller drops it before the inner service is called. -/
  | dropped (hst : t.stage = .finished) {w : Whence} (hw : w ≠ .called) :
      Account policy t c 0 [⟨t.key, w, .dropped⟩] []
  /-- The inner service answers or panics. -/
  | served (hst : t.stage = .finished) :
      Account policy t c 1 [⟨t.key, .called, .ofEnding c.script.ending⟩]
        (opening t.name c.script.actions ++ [Task.endingEvent t.name c.reply c.script.ending])
  /-- A guard answers while the inner service runs. -/
  | cut (hst : t.stage = .finished) :
      Account policy t c 1 [⟨t.key, .called, .late⟩]
        (opening t.name c.script.actions ++ [Task.deadlineEvent t.name c.reply])
  /-- Its caller drops it while the inner service runs. -/
  | left (hst : t.stage = .finished) :
      Account policy t c 1 [⟨t.key, .called, .dropped⟩] (opening t.name c.script.actions)

namespace Account

variable {policy : Policy} {t u : Task} {c : Call} {n : Nat} {cs : List Closing}
  {es new : List Event} {N N' : Counters} {b : Bool} {e? : Option Closing}

/-- An account in which the inner service has not been called is empty, or closed. -/
theorem of_unserved (h : Account policy t c n cs es) (hu : t.Unserved) :
    n = 0 ∧ cs = [] ∧ es = [] ∧ t.whence ≠ .called := by
  cases h with
  | fresh hst | parked hst =>
      refine ⟨rfl, rfl, rfl, ?_⟩
      unfold Task.whence
      rw [hst]
      nofun
  | running hst | refused hst | late hst | dropped hst | served hst | cut hst | left hst =>
      unfold Task.Unserved at hu
      rw [hst] at hu
      rcases hu with hu | ⟨guards, context, hu⟩ <;> cases hu

theorem of_running (h : Account policy t c n cs es) (hr : t.isRunning = true) :
    n = 1 ∧ cs = [] ∧ es = opening t.name c.script.actions ∧ t.whence = .called := by
  obtain ⟨guards, todo, hrun⟩ := Task.isRunning_iff.mp hr
  cases h with
  | running hst =>
      refine ⟨rfl, rfl, rfl, ?_⟩
      unfold Task.whence
      rw [hst]
  | fresh hst | parked hst | refused hst | late hst | dropped hst | served hst | cut hst
    | left hst =>
      rw [hst] at hrun
      cases hrun

/-- A request that has not ended waits for its inner service, or this runs. -/
theorem unserved_or_running (h : Account policy t c n cs es) (hst : t.stage ≠ .finished) :
    t.Unserved ∨ t.isRunning = true := by
  cases h with
  | fresh hst => exact .inl (.inl hst)
  | parked hst => exact .inl (.inr ⟨_, _, hst⟩)
  | running hst => exact .inr (Task.isRunning_iff.mpr ⟨_, _, hst⟩)
  | refused h | late h | dropped h | served h | cut h | left h => exact absurd h hst

/-- **AN ENTRY KEEPS AN ACCOUNT IN ORDER.** -/
theorem entry (h : Account policy t c n cs es) (he : Entry policy t c N u N' new b e?) :
    Account policy u c (n + b.toNat) (cs ++ e?.toList) (es ++ new) := by
  -- an entry fits the books only at the stage at which the request stands
  cases he with
  | rests =>
      rw [Option.toList_none, List.append_nil, List.append_nil]
      exact h
  | parks hu =>
      obtain ⟨rfl, rfl, rfl, -⟩ := h.of_unserved hu
      exact .parked rfl
  | refused hu reason =>
      obtain ⟨rfl, rfl, rfl, hw⟩ := h.of_unserved hu
      exact .refused (t := t.finish) rfl hw reason
  | late hopen =>
      rcases h.unserved_or_running hopen with hu | hr
      · obtain ⟨rfl, rfl, rfl, hw⟩ := h.of_unserved hu
        exact .late (t := t.finish) rfl hw
      · obtain ⟨rfl, rfl, rfl, hw⟩ := h.of_running hr
        rw [hw]
        exact .cut (t := t.finish) rfl
  | dropped hopen =>
      rw [List.append_nil]
      rcases h.unserved_or_running hopen with hu | hr
      · obtain ⟨rfl, rfl, rfl, hw⟩ := h.of_unserved hu
        exact .dropped (t := t.finish) rfl hw
      · obtain ⟨rfl, rfl, rfl, hw⟩ := h.of_running hr
        rw [hw]
        exact .left (t := t.finish) rfl
  | begins hu =>
      obtain ⟨rfl, rfl, rfl, -⟩ := h.of_unserved hu
      exact .running rfl
  | serves hu =>
      obtain ⟨rfl, rfl, rfl, -⟩ := h.of_unserved hu
      exact .served (t := t.finish) rfl
  | goesOn hr =>
      obtain ⟨rfl, rfl, rfl, -⟩ := h.of_running hr
      rw [Option.toList_none, List.append_nil, List.append_nil]
      exact .running rfl
  | ends hr =>
      obtain ⟨rfl, rfl, rfl, -⟩ := h.of_running hr
      exact .served (t := t.finish) rfl

/-- A request is closed exactly when it has ended, and once. -/
theorem length_eq (h : Account policy t c n cs es) : cs.length = t.isFinished.toNat := by
  unfold Task.isFinished
  cases h with
  | fresh hst | parked hst | running hst | refused hst | late hst | dropped hst | served hst
    | cut hst | left hst =>
      rw [hst]
      rfl

/-- The inner service of a request was called exactly when it runs, or when the request was closed
after the call. -/
theorem calls_eq (h : Account policy t c n cs es) :
    n = t.isRunning.toNat + cs.countP (·.isCalled) := by
  cases h with
  | running hst => rw [Task.isRunning_iff.mpr ⟨_, _, hst⟩]; rfl
  | fresh hst | parked hst => rw [isRunning_of_stage hst nofun]; rfl
  | served hst | cut hst | left hst => rw [isRunning_of_stage hst nofun]; rfl
  | refused hst hw | late hst hw | dropped hst hw =>
      rw [isRunning_of_stage hst nofun, List.countP_singleton]
      simp [Closing.isCalled, hw]

/-- A request whose inner service was called is not counted as a refusal. -/
theorem apart (h : Account policy t c n cs es) : n + cs.countP (·.reason?.isSome) ≤ 1 := by
  cases h with
  | fresh | parked | running => decide
  | refused | late | dropped =>
      rw [Nat.zero_add]
      exact List.countP_le_length
  | served hst =>
      rw [List.countP_singleton, reason?_ofEnding]
      decide
  | cut | left => exact Nat.le_refl 1

/-- Where the inner service was called, it has answered, or the request came to an end otherwise. -/
theorem called_split (h : Account policy t c n cs es) :
    ∀ e ∈ cs, e.isCalled.toNat = e.isAnswer.toNat + e.isBroken.toNat := by
  cases h with
  | fresh | parked | running => nofun
  | @refused hst w hw | @late hst w hw | @dropped hst w hw =>
      have hno : (w == Whence.called) = false := beq_false_of_ne hw
      refine List.forall_mem_singleton.mpr ?_
      show (w == .called).toNat = 0 + (w == .called && _).toNat
      rw [hno]
      rfl
  | served =>
      refine List.forall_mem_singleton.mpr ?_
      cases c.script.ending <;> rfl
  | cut | left => exact List.forall_mem_singleton.mpr rfl

end Account

/-! ## §4. Accounts of whole runs. -/

/-- The accounts of all requests; whatever else there is has none. -/
structure Ledgered (policy : Policy) (x : Session) (calls : List Nat) (cs : List Closing)
    (tale : Nat → List Event) : Prop where
  account : ∀ (k : Nat) (t : Task) (c : Call), x.tasks[k]? = some t → t.job = .call c →
    Account policy t c (calls.count k) (cs.filter (·.request == k)) (tale k)
  elsewhere : ∀ k, (∀ t, x.tasks[k]? = some t → ∀ c, t.job ≠ .call c) →
    k ∉ calls ∧ cs.filter (·.request == k) = []

section Ledgers

variable {policy : Policy} {x : Session} {calls : List Nat} {cs : List Closing}
  {tale : Nat → List Event} {k : Nat} {m : Move}

theorem notMem_called_elsewhere (hk : ∀ t, x.tasks[k]? = some t → ∀ c, t.job ≠ .call c)
    (m : Move) : k ∉ x.called m := by
  by_cases hp : m.polls k = true
  · rw [polls_iff.mp hp]
    cases ht : x.tasks[k]? with
    | none =>
        rw [called_poll_of_none ht]
        exact List.not_mem_nil
    | some t =>
        rw [called_poll ht, isCalled_of_aside (hk t ht), if_neg Bool.false_ne_true]
        exact List.not_mem_nil
  · exact notMem_called (by simpa using hp)

theorem closing?_elsewhere (hk : ∀ t, x.tasks[k]? = some t → ∀ c, t.job ≠ .call c)
    (m : Move) : x.closing? m k = none := by
  cases ht : x.tasks[k]? with
  | none => exact closing?_of_none ht m
  | some t => exact closing?_of_aside ht (hk t ht) m

/-- The account of a request that was there before. -/
theorem Ledgered.account_old (h : Ledgered policy x calls cs tale) (hs : x.Sound) (hr : x.Routed)
    (hpolicy : x.scene.policy = policy) (m : Move) {t u : Task} {c : Call}
    (hk : x.tasks[k]? = some t) (hu : (x.move m).tasks[k]? = some u) (hc : u.job = .call c) :
    Account policy u c ((calls ++ x.called m).count k)
      ((cs ++ x.closed m).filter (·.request == k)) (tale k ++ shownBy k x m) := by
  obtain ⟨u', hu', hheir⟩ := (hs.onward m).heir k t hk
  rw [hu] at hu'
  cases hu'
  have hc : t.job = .call c := hheir.job ▸ hc
  have haccount := h.account k t c hk hc
  rw [List.count_append, List.filter_append, filter_closed hs]
  subst hpolicy
  -- it is polled, it is dropped, or nothing happens to it
  rcases fate x m hk with rfl | ⟨hnot, hm⟩
  · have hself := getElem?_onTask_self hk Task.poll
    have hue : (t.poll x.scene).1 = u := Option.some.inj (hself.symm.trans hu)
    rw [(count_called_poll hk).1, shownBy_poll, ← hue]
    exact haccount.entry (hs.entry_of_poll hr hk hc)
  · rw [List.count_eq_zero_of_not_mem (notMem_called hnot), shownBy_of_not_polls hnot]
    rcases hm with hm | hm
    · have hself := getElem?_onTask_self hk Task.abort
      rw [hm, hself] at hu
      rw [← Option.some.inj hu]
      exact haccount.entry (hs.entry_of_drop hk hc hnot hm)
    · rw [hm] at hu
      cases hu
      rw [closing?_of_same (hm.trans hk.symm)]
      exact haccount.entry (N := x.scene.gate.counters) .rests

/-- **ONE MOVE ADDS TO THE ACCOUNTS** what it closes, calls and shows. -/
theorem Ledgered.move (h : Ledgered policy x calls cs tale) (hs : x.Sound) (hr : x.Routed)
    (hpolicy : x.scene.policy = policy)
    (hborn : ∀ k, x.tasks.length ≤ k → tale k ++ shownBy k x m = []) :
    Ledgered policy (x.move m) (calls ++ x.called m) (cs ++ x.closed m)
      (fun k => tale k ++ shownBy k x m) := by
  have helse : ∀ k, (∀ t, x.tasks[k]? = some t → ∀ c, t.job ≠ .call c) →
      k ∉ calls ++ x.called m ∧ (cs ++ x.closed m).filter (·.request == k) = [] := by
    intro k hk
    obtain ⟨hcalls, hcs⟩ := h.elsewhere k hk
    rw [List.mem_append, List.filter_append, filter_closed hs, hcs, closing?_elsewhere hk]
    exact ⟨fun hm => hm.elim hcalls (notMem_called_elsewhere hk m), rfl⟩
  constructor
  case account =>
    intro k u c hu hc
    by_cases hlt : k < x.tasks.length
    · exact h.account_old hs hr hpolicy m (List.getElem?_eq_getElem hlt) hu hc
    · -- it has just come
      have hle : x.tasks.length ≤ k := by omega
      obtain ⟨hcalls, hcs⟩ := helse k fun t ht => by
        rw [List.getElem?_eq_none hle] at ht
        cases ht
      rw [List.count_eq_zero_of_not_mem hcalls, hcs, hborn k hle]
      exact .fresh (fresh_of_new m hle hu)
  case elsewhere =>
    intro k hk
    refine helse k fun t ht c hc => ?_
    obtain ⟨u, hu, hheir⟩ := (hs.onward m).heir k t ht
    exact hk u hu c (hheir.job.trans hc)

/-- **THE ACCOUNTS OF A WHOLE RUN.** -/
theorem Sound.ledgered_run (h : x.Sound) (hx : x.tasks = []) {ms : List Move}
    (hms : ∀ m ∈ ms, m.isRouted = true) :
    Ledgered x.scene.policy (x.run ms) (callings x ms) (closings x ms) (fun k => story k x ms) := by
  have hempty : x.Routed := by
    intro t ht
    rw [hx] at ht
    cases ht
  induction ms using List.reverseRecOn with
  | nil =>
      refine ⟨fun k t c hk => ?_, fun k _ => ⟨List.not_mem_nil, rfl⟩⟩
      rw [run_nil, hx] at hk
      cases hk
  | append_singleton ms m ih =>
      have hinit : ∀ m' ∈ ms, m'.isRouted = true :=
        fun m' hm' => hms m' (List.mem_append_left _ hm')
      have hbooked := h.booked_run hx ms
      have hstep := (ih hinit).move (m := m) (h.run ms) (hempty.run h hinit)
        (h.onward_run ms).policy fun k hk => (hbooked.still_of_none m hk).2
      rw [run_concat]
      unfold callings closings story at hstep ⊢
      simp only [trail_concat]
      exact hstep

end Ledgers

end Admission.Session

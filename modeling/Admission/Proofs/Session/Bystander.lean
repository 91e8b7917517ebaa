/-
  Admission.Proofs.Session.Bystander — requests that the site does not throttle.

  A BYSTANDER is a task that has nothing to do with the gate.  If one joins a session, the tasks that
  come later have other numbers, and nothing else is different: a run with the bystander is the run
  without it.  So what a bystander is answered is all that anybody sees of it.

  Main results:
    * `move_joined`, `run_joined` — **a run with a bystander is the run without it**;
    * `Sound.addTask_eq_joined` — whoever comes joins the tasks that are there;
    * `layered` — **what each request goes through**, by the order in which the router is put
      together;
    * `Plain` — what a client of a request gets that is not throttled;
    * `unthrottled_do_not_interfere` — **requests that are not throttled do not interfere**.
-/
import Admission.Proofs.Http.Refusal
import Admission.Proofs.Json.RoundTrip
import Admission.Proofs.Session.Advice
import Admission.Proofs.Session.Mirror
import Admission.Proofs.Session.Renumbered

namespace Admission.Session

/-! ## §1. Places. -/

/-- The place of what was at `j`, when something has come in at `k`. -/
def skip (k j : Nat) : Nat := if j < k then j else j + 1

theorem skip_of_lt {k j : Nat} (h : j < k) : skip k j = j := if_pos h

theorem skip_of_le {k j : Nat} (h : k ≤ j) : skip k j = j + 1 := if_neg (Nat.not_lt.mpr h)

theorem skip_succ (k j : Nat) : skip (k + 1) (j + 1) = skip k j + 1 := by
  unfold skip
  split <;> split <;> omega

theorem skip_injective (k : Nat) : Function.Injective (skip k) := by
  intro i j h
  unfold skip at h
  split at h <;> split at h <;> omega

theorem getElem?_insertIdx_skip {α : Type} (a : α) :
    ∀ (l : List α) (k j : Nat), (l.insertIdx k a)[skip k j]? = l[j]?
  | _, 0, _ => rfl
  | [], k + 1, j => rfl
  | b :: l, k + 1, 0 => rfl
  | b :: l, k + 1, j + 1 => by
      rw [skip_succ]
      exact getElem?_insertIdx_skip a l k j

theorem set_insertIdx_skip {α : Type} (a b : α) :
    ∀ (l : List α) (k j : Nat), (l.insertIdx k a).set (skip k j) b = (l.set j b).insertIdx k a
  | _, 0, _ => rfl
  | [], k + 1, j => rfl
  | c :: l, k + 1, 0 => rfl
  | c :: l, k + 1, j + 1 => by
      rw [skip_succ]
      exact congrArg (c :: ·) (set_insertIdx_skip a b l k j)

theorem set_insertIdx_self {α : Type} (a b : α) :
    ∀ (l : List α) (k : Nat), (l.insertIdx k a).set k b = l.insertIdx k b
  | _, 0 => rfl
  | [], _ + 1 => rfl
  | c :: l, k + 1 => congrArg (c :: ·) (set_insertIdx_self a b l k)

theorem insertIdx_concat {α : Type} (a b : α) :
    ∀ {l : List α} {k : Nat}, k ≤ l.length → (l ++ [b]).insertIdx k a = l.insertIdx k a ++ [b]
  | _, 0, _ => rfl
  | c :: _, _ + 1, h => congrArg (c :: ·) (insertIdx_concat a b (Nat.le_of_succ_le_succ h))

/-! ## §2. Sessions that a task joins. -/

/-- The session with `e` as its task `k`. -/
def joined (k : Nat) (e : Task) (x : Session) : Session :=
  { x with
    scene := x.scene.renumber (skip k)
    tasks := (x.tasks.map (Task.renumber (skip k))).insertIdx k e }

/-- What happens to a task, under its new number. -/
def Move.renumber (f : Nat → Nat) : Move → Move
  | .poll j => .poll (f j)
  | .drop j => .drop (f j)
  | m => m

section Joined

variable {x : Session} {k : Nat} {e : Task}

theorem getElem?_joined (j : Nat) :
    (x.joined k e).tasks[skip k j]? = (x.tasks[j]?).map (Task.renumber (skip k)) := by
  show ((x.tasks.map (Task.renumber (skip k))).insertIdx k e)[skip k j]? = _
  rw [getElem?_insertIdx_skip, List.getElem?_map]

theorem getElem?_joined_self (hk : k ≤ x.tasks.length) : (x.joined k e).tasks[k]? = some e := by
  show ((x.tasks.map (Task.renumber (skip k))).insertIdx k e)[k]? = _
  rw [List.getElem?_insertIdx_self, if_pos (by rw [List.length_map]; exact hk)]

/-- What is done with another task. -/
theorem onTask_joined {f : Task → Scene → Task × Scene} (j : Nat)
    (h : ∀ t s, f (t.renumber (skip k)) (s.renumber (skip k)) = renumbered (skip k) (f t s)) :
    (x.joined k e).onTask (skip k j) f = (x.onTask j f).joined k e := by
  cases hj : x.tasks[j]? with
  | none =>
      have hnone : (x.joined k e).tasks[skip k j]? = none := by
        rw [getElem?_joined, hj]
        rfl
      rw [onTask_of_none hj, onTask_of_none hnone]
  | some t =>
      have hsome : (x.joined k e).tasks[skip k j]? = some (t.renumber (skip k)) := by
        rw [getElem?_joined, hj]
        rfl
      rw [onTask_of_some hj, onTask_of_some hsome]
      have hf := h t x.scene
      show Session.mk x.site (f (t.renumber (skip k)) (x.scene.renumber (skip k))).2 x.contexts
          (((x.tasks.map (Task.renumber (skip k))).insertIdx k e).set (skip k j)
            (f (t.renumber (skip k)) (x.scene.renumber (skip k))).1)
        = Session.mk x.site ((f t x.scene).2.renumber (skip k)) x.contexts
          (((x.tasks.set j (f t x.scene).1).map (Task.renumber (skip k))).insertIdx k e)
      rw [hf, set_insertIdx_skip, List.map_set]
      rfl

/-! ## §3. Commands. -/

/-- A task that comes later has the next number. -/
theorem addTask_joined (hk : k ≤ x.tasks.length) (name : String) (job : Job) :
    (x.joined k e).addTask name job = (x.addTask name job).joined k e := by
  -- whoever comes gets the number of those before, which is now one more
  have hlength : (x.joined k e).tasks.length = skip k x.tasks.length := by
    show ((x.tasks.map (Task.renumber (skip k))).insertIdx k e).length = _
    rw [List.length_insertIdx, List.length_map, if_pos hk, skip_of_le hk]
  refine congrArg (Session.mk x.site (x.scene.renumber (skip k)) x.contexts) ?_
  show (x.tasks.map (Task.renumber (skip k))).insertIdx k e
      ++ [(⟨(x.joined k e).tasks.length, name, job, .fresh⟩ : Task)]
    = ((x.tasks ++ [(⟨x.tasks.length, name, job, .fresh⟩ : Task)]).map
        (Task.renumber (skip k))).insertIdx k e
  rw [hlength, List.map_append, List.map_singleton,
    insertIdx_concat e _ (by rw [List.length_map]; exact hk)]
  rfl

theorem releaseKept_joined (name : String) :
    ((x.joined k e).releaseKept name).1 = (x.releaseKept name).1.joined k e := by
  unfold releaseKept
  rw [show (x.joined k e).scene.kept = x.scene.kept.map fun p => (p.1, skip k p.2) from rfl,
    lookup_map_snd]
  cases x.scene.kept.lookup name with
  | none => rfl
  | some key =>
      simp only [Option.map_some]
      rw [show (x.joined k e).scene.gate = x.scene.gate.renumber (skip k) from rfl,
        Gate.ticket?_renumber (skip_injective k)]
      cases x.scene.gate.ticket? key with
      | none => rfl
      | some ticket =>
          have hgate := Gate.release_renumber (skip_injective k) x.scene.gate key
          exact congrArg (fun gate =>
            { x.joined k e with scene := { x.scene.renumber (skip k) with gate } }) hgate

/-- A drop by name finds the task that it would find, or the one that has joined. -/
theorem abortFirst_insertIdx (name : String) (e : Task) (s : Scene) :
    ∀ (k : Nat) (ts : List Task),
      abortFirst name (ts.insertIdx k e) s
          = (abortFirst name ts s).map (fun out => (out.1.insertIdx k e, out.2))
        ∨ (e.isFinished = false ∧ e.isNamed name = true
          ∧ abortFirst name (ts.insertIdx k e) s
            = some (ts.insertIdx k (e.abort s).1, (e.abort s).2))
  | 0, ts => by
      rw [List.insertIdx_zero]
      by_cases he : (!e.isFinished && e.isNamed name) = true
      · have hboth := Bool.and_eq_true_iff.mp he
        exact .inr ⟨by simpa using hboth.1, hboth.2, if_pos he⟩
      · exact .inl (if_neg he)
  | k + 1, [] => .inl rfl
  | k + 1, t :: rest => by
      simp only [List.insertIdx_succ_cons]
      unfold abortFirst
      split
      · exact .inl rfl
      · rcases abortFirst_insertIdx name e s k rest with h | ⟨he, hn, h⟩
        · rw [h]
          refine .inl ?_
          cases abortFirst name rest s <;> rfl
        · rw [h]
          exact .inr ⟨he, hn, rfl⟩

theorem dropNamed_joined (name : String) :
    ((x.joined k e).dropNamed name).1 = (x.dropNamed name).1.joined k e
      ∨ (e.isFinished = false ∧ e.isNamed name = true
        ∧ ((x.joined k e).dropNamed name).1
          = { x.joined k (e.abort (x.scene.renumber (skip k))).1 with
              scene := (e.abort (x.scene.renumber (skip k))).2 }) := by
  unfold dropNamed
  rw [show (x.joined k e).scene.kept = x.scene.kept.map fun p => (p.1, skip k p.2) from rfl,
    lookup_map_snd]
  cases x.scene.kept.lookup name with
  | some key =>
      -- a ticket that is kept under the name goes before any task
      refine .inl ?_
      have hscene : (x.joined k e).scene.discardTicket (skip k key)
          = (x.scene.discardTicket key).renumber (skip k) :=
        discardTicket_renumber (skip_injective k) x.scene key
      simp only [Option.map_some, hscene]
      have hkept : ((x.scene.discardTicket key).kept.map fun p => (p.1, skip k p.2)).filter
            (·.1 != name)
          = ((x.scene.discardTicket key).kept.filter (·.1 != name)).map
            fun p => (p.1, skip k p.2) := List.filter_map
      exact congrArg (fun kept => { x.joined k e with
        scene := { (x.scene.discardTicket key).renumber (skip k) with kept } }) hkept
  | none =>
      simp only [Option.map_none]
      rcases abortFirst_insertIdx name e (x.scene.renumber (skip k)) k
        (x.tasks.map (Task.renumber (skip k))) with h | ⟨he, hn, h⟩
      · refine .inl ?_
        rw [abortFirst_renumber (skip_injective k)] at h
        rw [show abortFirst name (x.joined k e).tasks (x.joined k e).scene = _ from h]
        cases abortFirst name x.tasks x.scene <;> rfl
      · refine .inr ⟨he, hn, ?_⟩
        rw [show abortFirst name (x.joined k e).tasks (x.joined k e).scene = _ from h]
        rfl

/-- A command that drops no task. -/
theorem apply_joined (hk : k ≤ x.tasks.length) {c : Command} (hc : c.isStill = true)
    (hdrop : ∀ name, c ≠ .drop name) :
    ((x.joined k e).apply c).1 = (x.apply c).1.joined k e := by
  -- a command looks at what is shared, which the new task has left as it was
  cases c with
  | context | finish =>
      simp only [apply]
      rfl
  | acquire | handle | layer | http | report =>
      simp only [apply]
      exact addTask_joined hk _ _
  | cancel context =>
      simp only [apply]
      rw [show (x.joined k e).contexts = x.contexts from rfl]
      cases x.contexts.lookup context <;> rfl
  | watch name context =>
      simp only [apply]
      rw [show (x.joined k e).contexts = x.contexts from rfl]
      cases x.contexts.lookup context with
      | none => rfl
      | some c => exact addTask_joined hk name (.watch c)
  | release name =>
      simp only [apply]
      exact releaseKept_joined name
  | drop name => exact absurd rfl (hdrop name)
  | metrics =>
      simp only [apply]
      rw [show (x.joined k e).scene.metrics = x.scene.metrics from rfl]
      cases x.scene.metrics <;> rfl
  | advance | batch => cases hc

/-! ## §4. Runs. -/

/-- A drop by name ends the task that has joined. -/
structure DroppedBy (x : Session) (k : Nat) (e : Task) (m : Move) : Prop where
  isOpen : e.isFinished = false
  named : ∃ name, m = .tell (.drop name) ∧ e.isNamed name = true
  ended : ∃ u, ((x.joined k e).move (m.renumber (skip k))).tasks[k]? = some u ∧ u.stage = .finished

/-- **ONE MOVE BESIDE THE TASK THAT HAS JOINED**, which does not see it, or drops it by its name. -/
theorem move_joined (hk : k ≤ x.tasks.length) (m : Move) :
    (x.joined k e).move (m.renumber (skip k)) = (x.move m).joined k e ∨ DroppedBy x k e m := by
  cases m with
  | poll j => exact .inl (onTask_joined j (poll_renumber (skip_injective k)))
  | drop j => exact .inl (onTask_joined j (abort_renumber (skip_injective k)))
  | advance ms => exact .inl rfl
  | tell c =>
      -- only a drop by name can tell the new task from the others
      by_cases hdrop : ∃ name, c = .drop name
      · obtain ⟨name, rfl⟩ := hdrop
        have hmove : ∀ y : Session, y.move (.tell (.drop name)) = (y.dropNamed name).1 := by
          intro y
          show (y.apply (.drop name)).1 = _
          simp only [apply]
        show (x.joined k e).move (.tell (.drop name)) = _ ∨ _
        rw [hmove, hmove]
        rcases dropNamed_joined name with h | ⟨he, hn, h⟩
        · exact .inl h
        · refine .inr ⟨he, ⟨name, rfl, hn⟩, (e.abort (x.scene.renumber (skip k))).1, ?_, ?_⟩
          · show ((x.joined k e).move (.tell (.drop name))).tasks[k]? = _
            rw [hmove, h]
            exact getElem?_joined_self hk
          · unfold Task.abort
            split <;> rfl
      · refine .inl ?_
        show (if c.isStill then ((x.joined k e).apply c).1 else x.joined k e)
          = (if c.isStill then (x.apply c).1 else x).joined k e
        split
        next hc => exact apply_joined hk hc fun name he => hdrop ⟨name, he⟩
        next => rfl

/-- **A RUN BESIDE THE TASK THAT HAS JOINED**, if no drop by name can end it. -/
theorem run_joined (hk : k ≤ x.tasks.length) (hx : x.Sound) {ms : List Move}
    (hspared : ∀ name, e.isFinished = false → e.isNamed name = true → .tell (.drop name) ∉ ms) :
    (x.joined k e).run (ms.map (Move.renumber (skip k))) = (x.run ms).joined k e := by
  induction ms generalizing x with
  | nil => rfl
  | cons m ms ih =>
      have hlength : k ≤ (x.move m).tasks.length := Nat.le_trans hk (hx.onward m).length_le
      rw [List.map_cons, run_cons, run_cons]
      -- a drop by its name is the one move that sees it, and is not among them
      rcases move_joined hk m with hm | ⟨he, ⟨name, rfl, hn⟩, -⟩
      · rw [hm]
        exact ih hlength (hx.move m) fun name he hn hmem =>
          hspared name he hn (List.mem_cons_of_mem m hmem)
      · exact absurd List.mem_cons_self (hspared name he hn)

theorem run_joined_of_finished (hk : k ≤ x.tasks.length) (hx : x.Sound)
    (hend : e.isFinished = true) (ms : List Move) :
    (x.joined k e).run (ms.map (Move.renumber (skip k))) = (x.run ms).joined k e := by
  refine run_joined hk hx fun name he => ?_
  rw [hend] at he
  cases he

/-- **A RUN BESIDE THE TASK THAT HAS JOINED**, if this is still there at the end. -/
theorem run_joined_of_open (hk : k ≤ x.tasks.length) (hx : x.Sound) (h : (x.joined k e).Sound)
    {ms : List Move} {t : Task}
    (ht : ((x.joined k e).run (ms.map (Move.renumber (skip k)))).tasks[k]? = some t)
    (hopen : t.stage ≠ .finished) :
    (x.joined k e).run (ms.map (Move.renumber (skip k))) = (x.run ms).joined k e := by
  induction ms generalizing x with
  | nil => rfl
  | cons m ms ih =>
      have hlength : k ≤ (x.move m).tasks.length := Nat.le_trans hk (hx.onward m).length_le
      have hsound := h.move (m.renumber (skip k))
      rw [List.map_cons, run_cons] at ht ⊢
      rcases move_joined hk m with hm | ⟨-, -, u, hu, hend⟩
      · rw [hm] at hsound ht ⊢
        exact ih hlength (hx.move m) hsound ht
      · -- what has ended stays so
        obtain ⟨v, hv, hheir⟩ :=
          (hsound.onward_run (ms.map (Move.renumber (skip k)))).heir k u hu
        rw [ht] at hv
        cases hv
        exact absurd (hheir.stays hend) hopen

end Joined

/-! ## §5. Who comes last. -/

theorem map_of_fixed {α : Type} {f : α → α} {l : List α} (h : ∀ a ∈ l, f a = a) : l.map f = l :=
  (List.map_congr_left h).trans (List.map_id l)

/-- Other numbers are the same ones, where those that occur are kept. -/
theorem renumber_of_fixed {f : Nat → Nat} {s : Scene} (hids : ∀ i ∈ s.gate.ids, f i = i)
    (hkept : ∀ p ∈ s.kept, f p.2 = p.2) : s.renumber f = s := by
  have htickets : s.gate.tickets.map (Ticket.renumber f) = s.gate.tickets := by
    refine map_of_fixed fun t ht => ?_
    unfold Ticket.renumber
    rw [hids t.id (List.mem_append_left _ (List.mem_map_of_mem ht))]
  have hwaiters : s.gate.waiters.map (Waiter.renumber f) = s.gate.waiters := by
    refine map_of_fixed fun w hw => ?_
    unfold Waiter.renumber
    rw [hids w.id (List.mem_append_right _ (List.mem_map_of_mem hw))]
  have hkept : s.kept.map (fun p => (p.1, f p.2)) = s.kept := by
    refine map_of_fixed fun p hp => ?_
    rw [hkept p hp]
  unfold Scene.renumber Gate.renumber
  rw [htickets, hwaiters, hkept]

/-- **WHO COMES JOINS THE TASKS THAT ARE THERE**, and these keep their numbers. -/
theorem Sound.addTask_eq_joined {x : Session} (h : x.Sound) (name : String) (job : Job) :
    x.addTask name job = x.joined x.tasks.length ⟨x.tasks.length, name, job, .fresh⟩ := by
  have hscene : x.scene.renumber (skip x.tasks.length) = x.scene := by
    refine renumber_of_fixed (fun i hi => skip_of_lt (h.known i hi)) fun p hp => ?_
    obtain ⟨t, ht, -⟩ := h.kept p hp
    exact skip_of_lt (List.getElem?_eq_some_iff.mp ht).1
  have htasks : x.tasks.map (Task.renumber (skip x.tasks.length)) = x.tasks := by
    refine map_of_fixed fun t ht => ?_
    obtain ⟨j, hj⟩ := List.mem_iff_getElem?.mp ht
    have hkey : skip x.tasks.length t.key = t.key := by
      rw [h.keyed j t hj]
      exact skip_of_lt (List.getElem?_eq_some_iff.mp hj).1
    unfold Task.renumber
    rw [hkey]
  unfold joined
  rw [hscene, htasks, List.insertIdx_length_self]
  rfl

/-! ## §6. What a client gets. -/

open Http (Frame Request Response Router Visit)

theorem isPreflight_of_mem {v : Visit} (hmethod : v.request.method = "OPTIONS")
    (hsharing : .sharing ∈ v.service.layers) : v.isPreflight = true := by
  unfold Http.Visit.isPreflight
  rw [hmethod, List.contains_iff_mem.mpr hsharing]
  decide

/-- **WHAT A REQUEST GOES THROUGH** on the way to its page, by the order in which the router of the
application is put together. -/
structure Layered (site : Site) (r : Request) : Prop where
  /-- Cross-origin rules are outside of everything else, and around everything. -/
  sharing : (site.visit r).service.layers.head? = some .sharing
  /-- They answer every preflight themselves. -/
  preflight : r.method = "OPTIONS" → (site.visit r).isPreflight = true
  /-- The gate is around one page, which nothing else leads to. -/
  throttle : .throttle ∈ (site.visit r).service.layers ↔ r.path = "/"
  /-- So is a deadline guard, if there is one. -/
  deadline : ∀ d, .deadline d ∈ (site.visit r).service.layers
    ↔ r.path = "/" ∧ site.requestTimeout = some d
  /-- A request makes a call, or is answered at once. -/
  call : r.path = "/" → r.method ≠ "OPTIONS" → ∀ context, ∃ c : Call,
    siteJob site context r = .call c ∧ c.timeouts = site.requestTimeout.toList
  free : r.path ≠ "/" ∨ r.method = "OPTIONS" → ∀ context,
    siteJob site context r = .free (site.visit r)

theorem layered (site : Site) (r : Request) : Layered site r := by
  have hservice : (site.visit r).service
      = (Router.application site.requestTimeout).service r.path := rfl
  by_cases hpath : r.path = "/"
  · have hlayers : (site.visit r).service.layers
        = .sharing :: (site.requestTimeout.toList.reverse.map .deadline ++ [.throttle]) := by
      rw [hservice, hpath, Router.service_application_root]
      rfl
    constructor
    case sharing => rw [hlayers, List.head?_cons]
    case preflight => exact fun hmethod => isPreflight_of_mem hmethod (by simp [hlayers])
    case throttle => simp [hlayers, hpath]
    case deadline => simp [hlayers, hpath]
    case call => exact fun _ hmethod context => ⟨_, siteJob_of_page site context hpath hmethod, rfl⟩
    case free => exact fun h context => siteJob_of_aside site context h
  · obtain ⟨page, -, hpage⟩ := Router.service_application_of_ne _ site.requestTimeout hpath
    have hlayers : (site.visit r).service.layers = [.sharing] := by
      rw [hservice, hpage]
    constructor
    case sharing => rw [hlayers, List.head?_cons]
    case preflight => exact fun hmethod => isPreflight_of_mem hmethod (by simp [hlayers])
    case throttle => simp [hlayers, hpath]
    case deadline => simp [hlayers, hpath]
    case call => exact fun h => absurd h hpath
    case free => exact fun h context => siteJob_of_aside site context h

/-- The statuses that the site answers of itself. -/
def ownStatuses : List Status := [.ok, .notFound, .methodNotAllowed, .serviceUnavailable]

/-- An answer of the site is finished by a router, and has nothing of a refusal. -/
theorem exists_freeResponse_eq (v : Visit) (s : Gate.Snapshot) (m : Option Metrics) :
    ∃ (f : Frame) (a : Response), v.freeResponse s m = f.finish a ∧ a.status ∈ ownStatuses
      ∧ a.header? "x-content-type-options" = none := by
  have hok : Status.ok ∈ ownStatuses := by decide
  have hmissing : Status.notFound ∈ ownStatuses := by decide
  have hmethod : Status.methodNotAllowed ∈ ownStatuses := by decide
  have hservice : Status.serviceUnavailable ∈ ownStatuses := by decide
  unfold Http.Visit.freeResponse
  split
  · -- the router of a preflight finishes it as one without cross-origin rules
    exact ⟨{ v.frame with shared := false }, _, rfl, hok, rfl⟩
  · refine ⟨v.frame, _, rfl, ?_⟩
    split
    · exact ⟨hmethod, rfl⟩
    · cases v.service.page with
      | work | stats | health => exact ⟨hok, rfl⟩
      | missing | nothing => exact ⟨hmissing, rfl⟩
      | metrics =>
          cases m with
          | some m => exact ⟨hok, rfl⟩
          | none => exact ⟨hservice, rfl⟩

/-- **WHAT THE CLIENT GETS** of a request that is not throttled. -/
structure Plain (site : Site) (r : Request) (s : Gate.Snapshot) (m : Option Metrics) : Prop where
  status : ((site.visit r).freeResponse s m).status ∈ ownStatuses
  /-- It is not told that its time is over. -/
  inTime : ((site.visit r).freeResponse s m).status ≠ .gatewayTimeout
  /-- It is not refused by a gate. -/
  granted : ∀ (f : Frame) (refusal : Rejection),
    (site.visit r).freeResponse s m ≠ f.finish (.ofRejection refusal)
  /-- The figures of the gate are told as they are, and can be read from the body. -/
  figures : r.method = "GET" → r.path = "/throttle/stats" →
    ((site.visit r).freeResponse s m).status = .ok
      ∧ ((site.visit r).freeResponse s m).header? "content-type" = some "application/json"
      ∧ ∀ timestamp,
        ((site.visit r).freeResponse s m).body.render timestamp = s.toValue.compact
          ∧ Gate.Snapshot.coding.decode (((site.visit r).freeResponse s m).body.render timestamp)
            = some s

theorem plain (site : Site) (r : Request) (s : Gate.Snapshot) (m : Option Metrics) :
    Plain site r s m := by
  obtain ⟨f, a, heq, hstatus, hoptions⟩ := exists_freeResponse_eq (site.visit r) s m
  have hown : ((site.visit r).freeResponse s m).status ∈ ownStatuses := by
    rw [heq, Frame.status_finish]
    exact hstatus
  refine ⟨hown, ?_, ?_, ?_⟩
  · intro h
    rw [h] at hown
    revert hown
    decide
  · -- every refusal has a header that no answer of the site has
    intro f' refusal h
    have hkeeps := (f.keeps_finish a).typeOptions
    have hrefusal := (f'.keeps_finish (.ofRejection refusal)).typeOptions
    rw [header?_ofRejection_of_ne (by decide)] at hrefusal
    rw [← heq, h, hrefusal, hoptions] at hkeeps
    cases hkeeps
  · intro hmethod hpath
    have hanswer := freeResponse_of_figures hmethod hpath site s m
    refine ⟨?_, ?_, fun timestamp => ?_⟩
    · rw [hanswer, Frame.status_finish]
      rfl
    · rw [hanswer, ((site.visit r).frame.keeps_finish _).contentType]
      rfl
    · rw [render_freeResponse hmethod hpath]
      exact ⟨rfl, Gate.Snapshot.lawful.faithful.decode_encode s⟩

/-! ## §7. Requests that are not throttled. -/

/-- The request as a task that comes after `k` others. -/
def bystander (k : Nat) (name : String) (v : Visit) (stage : Stage) : Task :=
  ⟨k, name, .free v, stage⟩

/-- Moves of the others, while the request waits for its first poll. -/
def beside (x : Session) (name : String) (v : Visit) (ms : List Move) : Session :=
  (x.addTask name (.free v)).run (ms.map (Move.renumber (skip x.tasks.length)))

section Served

variable (x : Session) (name : String) (v : Visit) (ms : List Move)

/-- The request is still there. -/
def Pending : Prop :=
  ∃ t, (x.beside name v ms).tasks[x.tasks.length]? = some t ∧ t.stage ≠ .finished

/-- Its answer, if it is polled now. -/
def answerNow : Response :=
  v.freeResponse (x.beside name v ms).scene.gate.snapshot (x.beside name v ms).scene.metrics

/-- The run with the request, which is answered between the moves `ms` and `after`. -/
def servedBetween (after : List Move) : Session :=
  ((x.beside name v ms).move (.poll x.tasks.length)).run
    (after.map (Move.renumber (skip x.tasks.length)))

/-- **THE REQUEST IS SERVED, AND NOTHING ELSE HAPPENS.** -/
structure Served : Prop where
  /-- Before it is polled, nobody sees that it is there. -/
  unseen : x.beside name v ms
    = (x.run ms).joined x.tasks.length (bystander x.tasks.length name v .fresh)
  /-- Its first poll answers it and ends it, and leaves all else as it is. -/
  answered : (x.beside name v ms).move (.poll x.tasks.length)
    = { x.beside name v ms with
        tasks := (x.beside name v ms).tasks.set x.tasks.length
          (bystander x.tasks.length name v .finished)
        scene := (x.beside name v ms).scene.emit (.response name (x.answerNow name v ms)) }
  notRefused : (x.beside name v ms).returned? (.poll x.tasks.length) = none
  answer : x.answerNow name v ms
    = v.freeResponse (x.run ms).scene.gate.snapshot (x.run ms).scene.metrics
  /-- Afterwards everything happens, and is shown, that happens without it. -/
  unfelt : ∀ after, x.servedBetween name v ms after
    = ((x.run (ms ++ after)).joined x.tasks.length
        (bystander x.tasks.length name v .finished)).withLog
      ((x.run ms).scene.log ++ .response name (x.answerNow name v ms)
        :: trail shown (x.run ms) after)
  /-- What becomes of the others is what becomes of them without it. -/
  outcomes : ∀ after j t, (x.run (ms ++ after)).tasks[j]? = some t →
    (x.servedBetween name v ms after).tasks[skip x.tasks.length j]?
      = some (t.renumber (skip x.tasks.length))
  /-- So are the figures of the gate. -/
  figures : ∀ after, (x.servedBetween name v ms after).scene.gate.snapshot
    = (x.run (ms ++ after)).scene.gate.snapshot

end Served

section Runs

variable {x : Session} {name : String} {v : Visit} {ms : List Move}

/-- Before it is polled, nobody sees that it is there. -/
theorem Sound.beside_eq (h : x.Sound) (hsound : (x.addTask name (.free v)).Sound)
    (hpending : x.Pending name v ms) :
    x.beside name v ms
      = (x.run ms).joined x.tasks.length (bystander x.tasks.length name v .fresh) := by
  have hjoin := h.addTask_eq_joined name (.free v)
  unfold Pending beside at hpending
  unfold beside
  rw [hjoin] at hsound hpending ⊢
  obtain ⟨t, ht, hopen⟩ := hpending
  exact run_joined_of_open (Nat.le_refl _) h hsound ht hopen

/-- It is there until it is polled, unless its caller drops it by its name. -/
theorem Sound.pending_of_notMem (h : x.Sound) (hdrop : .tell (.drop name) ∉ ms) :
    x.Pending name v ms := by
  have hrun : x.beside name v ms
      = (x.run ms).joined x.tasks.length (bystander x.tasks.length name v .fresh) := by
    unfold beside
    rw [h.addTask_eq_joined name (.free v)]
    refine run_joined (Nat.le_refl _) h fun other _ hn => ?_
    have hother : name = other := by simpa [Task.isNamed] using hn
    rw [← hother]
    exact hdrop
  refine ⟨bystander x.tasks.length name v .fresh, ?_, nofun⟩
  rw [hrun]
  exact getElem?_joined_self (h.onward_run ms).length_le

/-- Who has joined and has ended shows nothing any more. -/
theorem trail_shown_joined {k : Nat} {e : Task} (hk : k ≤ x.tasks.length) (hx : x.Sound)
    (hend : e.isFinished = true) (ms : List Move) :
    trail shown (x.joined k e) (ms.map (Move.renumber (skip k))) = trail shown x ms := by
  have hjoined := log_run (x.joined k e) (ms.map (Move.renumber (skip k)))
  rw [run_joined_of_finished hk hx hend] at hjoined
  have halone : (x.run ms).scene.log = x.scene.log ++ trail shown x ms := log_run x ms
  exact (List.append_cancel_left (halone.symm.trans hjoined)).symm

/-- **THE REQUEST IS SERVED, AND NOTHING ELSE HAPPENS.** -/
theorem Sound.served (h : x.Sound) (hsound : (x.addTask name (.free v)).Sound)
    (hpending : x.Pending name v ms) : x.Served name v ms := by
  have hunseen := h.beside_eq hsound hpending
  have hlength : x.tasks.length ≤ (x.run ms).tasks.length := (h.onward_run ms).length_le
  have htask : (x.beside name v ms).tasks[x.tasks.length]?
      = some (bystander x.tasks.length name v .fresh) := by
    rw [hunseen]
    exact getElem?_joined_self hlength
  have hanswered : (x.beside name v ms).move (.poll x.tasks.length)
      = { x.beside name v ms with
          tasks := (x.beside name v ms).tasks.set x.tasks.length
            (bystander x.tasks.length name v .finished)
          scene := (x.beside name v ms).scene.emit (.response name (x.answerNow name v ms)) } := by
    show (x.beside name v ms).onTask x.tasks.length Task.poll = _
    have hfresh : (bystander x.tasks.length name v .fresh).stage ≠ .finished := nofun
    rw [onTask_of_some htask, poll_free rfl hfresh]
    rfl
  -- what is left of it is a task that has ended, and an answer in the log
  have hleft : (x.beside name v ms).move (.poll x.tasks.length)
      = ((x.run ms).joined x.tasks.length (bystander x.tasks.length name v .finished)).withLog
          ((x.run ms).scene.log ++ [.response name (x.answerNow name v ms)]) := by
    rw [hanswered]
    generalize x.answerNow name v ms = answer
    rw [hunseen]
    exact congrArg (Session.mk _ _ _) (set_insertIdx_self _ _ _ _)
  have hunfelt : ∀ after, x.servedBetween name v ms after
      = ((x.run (ms ++ after)).joined x.tasks.length
          (bystander x.tasks.length name v .finished)).withLog
        ((x.run ms).scene.log ++ .response name (x.answerNow name v ms)
          :: trail shown (x.run ms) after) := by
    intro after
    unfold servedBetween
    rw [hleft, run_withLog, run_joined_of_finished hlength (h.run ms) rfl,
      trail_shown_joined hlength (h.run ms) rfl, run_append, List.append_assoc]
    rfl
  constructor
  case unseen => exact hunseen
  case answered => exact hanswered
  case notRefused =>
    show ((x.beside name v ms).tasks[x.tasks.length]?.bind _) = none
    rw [htask]
    rfl
  case answer =>
    unfold answerNow
    rw [hunseen]
    rfl
  case unfelt => exact hunfelt
  case outcomes =>
    intro after j t ht
    rw [hunfelt]
    show ((x.run (ms ++ after)).joined _ _).tasks[_]? = _
    rw [getElem?_joined, ht]
    rfl
  case figures =>
    intro after
    rw [hunfelt]
    exact Gate.snapshot_renumber _ _

end Runs

/-- **REQUESTS THAT ARE NOT THROTTLED DO NOT INTERFERE**: whatever has happened in a session over an
accepted gate, a request for another path than that of the page behind the gate, or one that the
cross-origin rules answer, comes and is served as if it were alone, and all others as if it were not
there. -/
theorem unthrottled_do_not_interfere {o : Options} {g : Gate} (h : Gate.ofOptions o = .ok g)
    (policy : Policy) (site : Site) (metrics : Option Metrics) (before : List Move) (name : String)
    (context : Option String) (r : Request) (hr : r.path ≠ "/" ∨ r.method = "OPTIONS") :
    (∀ q : Request, Layered site q)
      ∧ ((ofGate g policy site metrics).run before).move (.tell (.http name context r))
        = ((ofGate g policy site metrics).run before).addTask name (.free (site.visit r))
      ∧ ∀ ms, (.tell (.drop name) ∉ ms →
          ((ofGate g policy site metrics).run before).Pending name (site.visit r) ms)
        ∧ (((ofGate g policy site metrics).run before).Pending name (site.visit r) ms →
          ((ofGate g policy site metrics).run before).Served name (site.visit r) ms)
        ∧ Plain site r (((ofGate g policy site metrics).run before).run ms).scene.gate.snapshot
          (((ofGate g policy site metrics).run before).run ms).scene.metrics := by
  have hstart := ofGate_sound h policy site metrics
  have hx := hstart.run before
  have hsite : ((ofGate g policy site metrics).run before).site = site :=
    (hstart.onward_run before).site
  generalize (ofGate g policy site metrics).run before = x at hx hsite ⊢
  have hcomes := move_http_of_aside x name context hr
  have hsound : (x.addTask name (.free (x.site.visit r))).Sound := hcomes ▸ hx.move _
  rw [hsite] at hcomes hsound
  exact ⟨layered site, hcomes, fun ms => ⟨hx.pending_of_notMem, hx.served hsound, plain site r _ _⟩⟩

/-- The figures are asked for while one request has the only permit and another one waits for it; the
deadline of both comes first. -/
theorem unthrottled_do_not_interfere_when_full :
    let site : Site := ⟨.ofMillis 50, some (.ofMillis 30)⟩
    let x := (ofGate (Gate.ofLimits 1 2 .unbounded) .standard site none).run
        [.tell (.http "a" none ⟨"GET", "/"⟩), .poll 0, .tell (.http "b" none ⟨"GET", "/"⟩), .poll 1]
    let r : Request := ⟨"GET", "/throttle/stats"⟩
    Gate.ofOptions ((Options.ofLimit 1).withBacklog 1 .unbounded)
        = .ok (Gate.ofLimits 1 2 .unbounded)
      ∧ r.path ≠ "/" ∧ x.Pending "s" (site.visit r) [.advance 30, .poll 0]
      ∧ x.Served "s" (site.visit r) [.advance 30, .poll 0] := by
  intro site x r
  have hpath : r.path ≠ "/" := by decide
  obtain ⟨-, -, hserves⟩ := unthrottled_do_not_interfere
    (o := (Options.ofLimit 1).withBacklog 1 .unbounded) rfl .standard site none
    [.tell (.http "a" none ⟨"GET", "/"⟩), .poll 0, .tell (.http "b" none ⟨"GET", "/"⟩), .poll 1]
    "s" none r (.inl hpath)
  obtain ⟨hpending, hserved, -⟩ := hserves [.advance 30, .poll 0]
  have hthere : x.Pending "s" (site.visit r) [.advance 30, .poll 0] := hpending (by simp)
  exact ⟨rfl, hpath, hthere, hserved hthere⟩

end Admission.Session

/-
  Admission.Proofs.Session.Exchange — a request with another context in place of its own.

  A request that nobody times asks its context one thing only: whether it has ended, and this only
  as long as the request waits for the gate.  So its context may be exchanged for any other one that
  has ended, wherever it is asked, exactly if this one has; and once the request has been admitted,
  for any other at all.  All else in the session stays as it is.

  With the veil over the token of the context it follows that neither a cancellation nor a deadline
  reaches beyond the admission.

  Main results:
    * `run_exchange` — the context of a request decides nothing but what it is asked;
    * `cancellation_stops_at_admission` — **the end of its context changes nothing for a request that
      was admitted, nor for any other**.
-/
import Mathlib.Data.List.Infix
import Admission.Proofs.Session.Veil
import Admission.Proofs.Session.Waiting

namespace Admission.Session

/-! ## §1. The exchange. -/

namespace Task

/-- The request still waits for the gate. -/
def awaits (t : Task) : Bool :=
  match t.stage with
  | .fresh | .parked _ _ => true
  | _ => false

/-- The request, with another context in place of its own. -/
def exchange (e : Option Context) (t : Task) : Task :=
  { t with
    job := match t.job with
      | .call c => .call { c with ambient := e }
      | job => job
    stage := match t.stage with
      | .parked guards _ => .parked guards e
      | stage => stage }

variable {t : Task} {c : Call} (e : Option Context)

theorem job_exchange (hc : t.job = .call c) :
    (t.exchange e).job = .call { c with ambient := e } := by
  unfold exchange
  simp only [hc]

theorem stage_exchange (h : ∀ guards context, t.stage ≠ .parked guards context) :
    (t.exchange e).stage = t.stage := by
  unfold exchange
  cases hst : t.stage with
  | parked guards context => exact absurd hst (h guards context)
  | fresh | running | reporting | finished => rfl

theorem isFinished_exchange : (t.exchange e).isFinished = t.isFinished := by
  unfold isFinished exchange
  cases t.stage <;> rfl

theorem isNamed_exchange (name : String) : (t.exchange e).isNamed name = t.isNamed name := by
  unfold isNamed exchange
  cases t.job <;> rfl

end Task

/-- The session with another context in place of that of request `k`. -/
def exchange (k : Nat) (e : Option Context) (x : Session) : Session :=
  { x with tasks := x.tasks.modify k (Task.exchange e) }

/-- What becomes of the request, with another context in place of its own. -/
def Task.exchanged (e : Option Context) (out : Task × Scene) : Task × Scene :=
  (out.1.exchange e, out.2)

/-! ## §2. Polls. -/

section Polls

variable {t : Task} {c : Call} {s s0 : Scene} {guards : List Guard} {context : Option Context}
  {v : Verdict} {todo : List Action} (e : Option Context)

/-- A request that nobody times is asked about its own context. -/
theorem Asks.exchange (h : Asks t c s guards context s0 v) (ht : Equipped t) (hc : t.job = .call c)
    (hn : c.timeouts = []) (he : Task.isOver e s = Task.isOver c.ambient s) :
    Asks (t.exchange e) { c with ambient := e } s guards e s0 v := by
  cases h with
  | @enters a g _ hf ha _ hg =>
      rw [hn] at ha
      subst ha
      refine .enters (a := ⟨[], e, s.tokens, false⟩) ?_ ?_ rfl ?_
      · rw [Task.stage_exchange e (by rw [hf]; nofun), hf]
      · show Task.arm s.now c.timeouts e s.tokens = _
        rw [hn]
        rfl
      · rw [← hg]
        exact congrArg (s.gate.enter t.key s.now) he
  | @resumes _ _ g _ hp hd hg =>
      obtain ⟨now, ts, a, ha, -, -, hcontext⟩ := ht c guards context hc hp
      rw [hn] at ha
      subst ha
      have hcontext : c.ambient = context := hcontext
      refine .resumes ?_ hd ?_
      · unfold Task.exchange
        simp only [hp]
      · rw [← hg, he, hcontext]
        rfl

/-- A request that asks is one that waits, or comes. -/
theorem Asks.awaits (h : Asks t c s guards context s0 v) : t.awaits = true := by
  unfold Task.awaits
  cases h with
  | enters hf => rw [hf]
  | resumes hp => rw [hp]

/-- Its guards fire as before. -/
theorem Fires.exchange (h : Fires t c s s0) (ht : Equipped t) (hc : t.job = .call c)
    (hn : c.timeouts = []) : Fires (t.exchange e) { c with ambient := e } s s0 := by
  -- without guards none fires at once, and none while the request is parked
  cases h with
  | atOnce hf ha hy =>
      rw [hn] at ha
      subst ha
      cases hy
  | parked hp hd =>
      obtain ⟨now, ts, a, ha, -, hguards, -⟩ := ht c _ _ hc hp
      rw [hn] at ha
      subst ha
      rw [← hguards] at hd
      cases hd
  | running hp hd => exact .running ((Task.stage_exchange e (by rw [hp]; nofun)).trans hp) hd

/-- Its handler is called, or goes on, as before. -/
theorem Acts.exchange (h : Acts t c s guards todo s0) (ht : Equipped t) (hc : t.job = .call c)
    (hn : c.timeouts = []) (he : t.awaits = true → Task.isOver e s = Task.isOver c.ambient s) :
    Acts (t.exchange e) { c with ambient := e } s guards todo s0 := by
  cases h with
  | begins hask hr => exact .begins (hask.exchange e ht hc hn (he hask.awaits)) hr
  | goesOn hp hd => exact .goesOn ((Task.stage_exchange e (by rw [hp]; nofun)).trans hp) hd

/-- It gets on as before. -/
theorem proceed_exchange (t : Task) (c : Call) (guards : List Guard) (todo : List Action)
    (s : Scene) : (t.exchange e).proceed { c with ambient := e } guards todo s
      = Task.exchanged e (t.proceed c guards todo s) := by
  unfold Task.proceed
  rw [show (t.exchange e).name = t.name from rfl]
  generalize s.perform t.name todo = out
  obtain ⟨left, s1⟩ := out
  cases left <;> rfl

theorem settleVerdict_exchange (t : Task) (c : Call) (guards : List Guard)
    (context : Option Context) (s : Scene) (v : Verdict) :
    (t.exchange e).settleVerdict { c with ambient := e } guards e s v
      = Task.exchanged e (t.settleVerdict c guards context s v) := by
  cases v with
  | parked | rejected => rfl
  | admitted =>
      by_cases hr : c.reply = .ticket
      · unfold Task.settleVerdict
        simp only [hr]
        rfl
      · rw [settleVerdict_admitted t hr,
          settleVerdict_admitted (c := { c with ambient := e }) (t.exchange e) hr,
          ← proceed_exchange]

/-- **A POLL WITH ANOTHER CONTEXT** comes to the same, if this one has ended exactly if the other
has; and a request that waits no more is not asked at all. -/
theorem poll_exchange (ht : Equipped t) (hc : t.job = .call c) (hn : c.timeouts = [])
    (he : t.awaits = true → Task.isOver e s = Task.isOver c.ambient s) :
    (t.exchange e).poll s = Task.exchanged e (t.poll s) := by
  have hjob := Task.job_exchange e hc
  -- a request that asks gets the same verdict under either context, by `he`
  have hasks : ∀ {guards context s0 v}, Asks t c s guards context s0 v →
      (t.exchange e).poll s = Task.exchanged e (t.poll s) := by
    intro guards context s0 v hask
    rw [(hask.exchange e ht hc hn (he hask.awaits)).poll_eq hjob, hask.poll_eq hc,
      settleVerdict_exchange]
  have hturn := turn_poll hc s
  generalize hout : t.poll s = out at hturn
  cases hturn with
  | idle hst =>
      rcases hst with hst | ⟨next, hst⟩
      · rw [poll_of_finished ((Task.stage_exchange e (by rw [hst]; nofun)).trans hst)]
        rfl
      · have hst' := (Task.stage_exchange e (by rw [hst]; nofun)).trans hst
        unfold Task.poll
        rw [hjob, hst']
        rfl
  | late hfire =>
      rw [(hfire.exchange e ht hc hn).poll_eq hjob]
      rfl
  | parks hask => exact hout ▸ hasks hask
  | refused hask => exact hout ▸ hasks hask
  | keeps hask => exact hout ▸ hasks hask
  | acts hact => rw [(hact.exchange e ht hc hn he).poll_eq hjob, proceed_exchange]

theorem abort_exchange (t : Task) (s : Scene) :
    (t.exchange e).abort s = Task.exchanged e (t.abort s) := by
  unfold Task.abort Task.exchange
  cases t.stage <;> rfl

end Polls

/-! ## §3. Runs. -/

section Moves

variable {x : Session} {k : Nat} (e : Option Context)

theorem getElem?_exchange_self {t : Task} (hk : x.tasks[k]? = some t) :
    (x.exchange k e).tasks[k]? = some (t.exchange e) := by
  show (x.tasks.modify k (Task.exchange e))[k]? = _
  rw [List.getElem?_modify_eq, hk]
  rfl

theorem getElem?_exchange_of_ne {j : Nat} (hne : k ≠ j) :
    (x.exchange k e).tasks[j]? = x.tasks[j]? :=
  List.getElem?_modify_ne (Task.exchange e) x.tasks hne

/-- What is done with the request itself. -/
theorem onTask_exchange_self {f : Task → Scene → Task × Scene}
    (h : ∀ t, x.tasks[k]? = some t → f (t.exchange e) x.scene = Task.exchanged e (f t x.scene)) :
    (x.exchange k e).onTask k f = (x.onTask k f).exchange k e := by
  cases hk : x.tasks[k]? with
  | none =>
      have hk' : (x.exchange k e).tasks[k]? = none := by
        show (x.tasks.modify k (Task.exchange e))[k]? = _
        rw [List.getElem?_modify_eq, hk]
        rfl
      rw [onTask_of_none hk, onTask_of_none hk']
  | some t =>
      rw [onTask_of_some hk, onTask_of_some (getElem?_exchange_self e hk)]
      have hf := h t hk
      show Session.mk x.site (f (t.exchange e) x.scene).2 x.contexts
        ((x.tasks.modify k (Task.exchange e)).set k (f (t.exchange e) x.scene).1) = _
      rw [hf]
      refine congrArg (Session.mk x.site (f t x.scene).2 x.contexts) ?_
      -- place by place: `k` itself, and all others
      refine List.ext_getElem? fun j => ?_
      by_cases hj : k = j
      · subst hj
        obtain ⟨hlt, -⟩ := List.getElem?_eq_some_iff.mp hk
        rw [List.getElem?_modify_eq, List.getElem?_set_self hlt,
          List.getElem?_set_self (by rw [List.length_modify]; exact hlt)]
        rfl
      · rw [List.getElem?_set_ne hj, List.getElem?_modify_ne _ _ hj, List.getElem?_modify_ne _ _ hj,
          List.getElem?_set_ne hj]

/-- What is done with another task. -/
theorem onTask_exchange_of_ne {f : Task → Scene → Task × Scene} {j : Nat} (hne : k ≠ j) :
    (x.exchange k e).onTask j f = (x.onTask j f).exchange k e := by
  have hj := getElem?_exchange_of_ne (x := x) e hne
  cases hx : x.tasks[j]? with
  | none => rw [onTask_of_none hx, onTask_of_none (hj.trans hx)]
  | some t =>
      rw [onTask_of_some hx, onTask_of_some (hj.trans hx)]
      refine congrArg (Session.mk x.site (f t x.scene).2 x.contexts) ?_
      refine List.ext_getElem? fun i => ?_
      show ((x.tasks.modify k (Task.exchange e)).set j (f t x.scene).1)[i]? = _
      by_cases hi : j = i
      · subst hi
        obtain ⟨hlt, -⟩ := List.getElem?_eq_some_iff.mp hx
        rw [List.getElem?_modify_ne _ _ hne, List.getElem?_set_self hlt,
          List.getElem?_set_self (by rw [List.length_modify]; exact hlt)]
      · rw [List.getElem?_set_ne hi, List.getElem?_modify, List.getElem?_modify,
          List.getElem?_set_ne hi]

theorem abortFirst_exchange (name : String) (s : Scene) :
    ∀ (k : Nat) (ts : List Task), abortFirst name (ts.modify k (Task.exchange e)) s
      = (abortFirst name ts s).map fun out => (out.1.modify k (Task.exchange e), out.2)
  | k, [] => by cases k <;> rfl
  | 0, t :: rest => by
      rw [List.modify_zero_cons]
      unfold abortFirst
      rw [Task.isFinished_exchange, Task.isNamed_exchange, abort_exchange]
      split
      · rfl
      · cases abortFirst name rest s <;> rfl
  | k + 1, t :: rest => by
      rw [List.modify_succ_cons]
      unfold abortFirst
      rw [abortFirst_exchange name s k rest]
      split
      · rfl
      · cases abortFirst name rest s <;> rfl

theorem dropNamed_exchange (k : Nat) (x : Session) (name : String) :
    ((x.exchange k e).dropNamed name).1 = (x.dropNamed name).1.exchange k e := by
  unfold dropNamed
  rw [show (x.exchange k e).scene = x.scene from rfl]
  cases x.scene.kept.lookup name with
  | some key => rfl
  | none =>
      simp only
      rw [show (x.exchange k e).tasks = x.tasks.modify k (Task.exchange e) from rfl,
        abortFirst_exchange]
      cases abortFirst name x.tasks x.scene <;> rfl

theorem releaseKept_exchange (k : Nat) (x : Session) (name : String) :
    ((x.exchange k e).releaseKept name).1 = (x.releaseKept name).1.exchange k e := by
  unfold releaseKept
  rw [show (x.exchange k e).scene = x.scene from rfl]
  cases x.scene.kept.lookup name with
  | none => rfl
  | some key =>
      simp only
      cases x.scene.gate.ticket? key <;> rfl

/-- A task that comes later is another one. -/
theorem addTask_exchange (hk : k < x.tasks.length) (name : String) (job : Job) :
    (x.exchange k e).addTask name job = (x.addTask name job).exchange k e := by
  have hlength : (x.exchange k e).tasks.length = x.tasks.length := List.length_modify _ _ _
  unfold addTask
  rw [hlength]
  refine congrArg (Session.mk x.site x.scene x.contexts) ?_
  refine List.ext_getElem? fun j => ?_
  show (x.tasks.modify k (Task.exchange e) ++ [_])[j]? = _
  rw [List.getElem?_modify]
  by_cases hj : j < x.tasks.length
  · rw [List.getElem?_append_left (by rw [List.length_modify]; exact hj), List.getElem?_modify,
      List.getElem?_append_left hj]
  · have hne : k ≠ j := fun he => hj (he ▸ hk)
    rw [List.getElem?_append_right (by rw [List.length_modify]; omega),
      List.getElem?_append_right (by omega), List.length_modify]
    simp [hne]

/-- No command asks the context of a request that is there. -/
theorem apply_exchange (hk : k < x.tasks.length) {c : Command} (hc : c.isStill = true) :
    ((x.exchange k e).apply c).1 = (x.apply c).1.exchange k e := by
  -- no command looks at the context that a request came with
  cases c with
  | context | finish =>
      simp only [apply]
      rfl
  | acquire | handle | layer | http | report =>
      simp only [apply]
      exact addTask_exchange e hk _ _
  | cancel context =>
      simp only [apply]
      rw [show (x.exchange k e).contexts = x.contexts from rfl]
      cases x.contexts.lookup context <;> rfl
  | watch name context =>
      simp only [apply]
      rw [show (x.exchange k e).contexts = x.contexts from rfl]
      cases x.contexts.lookup context with
      | none => rfl
      | some c => exact addTask_exchange e hk name (.watch c)
  | release name =>
      simp only [apply]
      exact releaseKept_exchange e k x name
  | drop name =>
      simp only [apply]
      exact dropNamed_exchange e k x name
  | metrics =>
      simp only [apply]
      rw [show (x.exchange k e).scene = x.scene from rfl]
      cases x.scene.metrics <;> rfl
  | advance | batch => cases hc

/-- **ONE MOVE WITH ANOTHER CONTEXT.** -/
theorem move_exchange {t : Task} {c : Call} (hk : x.tasks[k]? = some t) (ht : Equipped t)
    (hc : t.job = .call c) (hn : c.timeouts = [])
    (he : t.awaits = true → Task.isOver e x.scene = Task.isOver c.ambient x.scene) (m : Move) :
    (x.exchange k e).move m = (x.move m).exchange k e := by
  have hlt := (List.getElem?_eq_some_iff.mp hk).1
  -- only a move of the request itself could look at its context
  cases m with
  | poll j =>
      by_cases hj : k = j
      · subst hj
        refine onTask_exchange_self e fun u hu => ?_
        rw [hk] at hu
        cases hu
        exact poll_exchange e ht hc hn he
      · exact onTask_exchange_of_ne e hj
  | drop j =>
      by_cases hj : k = j
      · subst hj
        exact onTask_exchange_self e fun u _ => abort_exchange e u x.scene
      · exact onTask_exchange_of_ne e hj
  | tell c =>
      unfold move
      simp only
      split
      next hc => exact apply_exchange e hlt hc
      next => rfl
  | advance ms => rfl

end Moves

/-- Wherever request `k` still waits in a run, the one context has ended exactly if the other has. -/
def SameEnd (x : Session) (ms : List Move) (k : Nat) (d e : Option Context) : Prop :=
  ∀ pre post, ms = pre ++ post → ∀ t, (x.run pre).tasks[k]? = some t → t.awaits = true →
    Task.isOver e (x.run pre).scene = Task.isOver d (x.run pre).scene

/-- **THE CONTEXT OF A REQUEST DECIDES NOTHING BUT WHAT IT IS ASKED.** -/
theorem run_exchange {x : Session} (hx : x.Sound) {k : Nat} {t : Task} {c : Call}
    (hk : x.tasks[k]? = some t) (hc : t.job = .call c) (hn : c.timeouts = []) (ms : List Move)
    (hequip : ∀ pre post, ms = pre ++ post → ∀ u ∈ (x.run pre).tasks, Equipped u)
    {e : Option Context} (he : x.SameEnd ms k c.ambient e) :
    (x.exchange k e).run ms = (x.run ms).exchange k e := by
  induction ms using List.reverseRecOn with
  | nil => rfl
  | append_singleton ms m ih =>
      obtain ⟨u, hu, hheir⟩ := (hx.onward_run ms).heir k t hk
      rw [run_concat, run_concat, ih]
      · exact move_exchange e hu (hequip ms [m] rfl u (List.mem_of_getElem? hu))
          (hheir.job.trans hc) hn (he ms [m] rfl u hu) m
      · exact fun pre post hm => hequip pre (post ++ [m]) (by rw [hm, List.append_assoc])
      · exact fun pre post hm => he pre (post ++ [m]) (by rw [hm, List.append_assoc])

/-! ## §4. After the admission. -/

/-- The sessions are the same, but for whether token `i` was cancelled. -/
structure SameBut (i : Nat) (x y : Session) : Prop where
  rest : y = { x with scene := { x.scene with tokens := y.scene.tokens } }
  fresh : y.scene.tokens.fresh = x.scene.tokens.fresh
  others : ∀ j, j ≠ i → (j ∈ y.scene.tokens.cancelled ↔ j ∈ x.scene.tokens.cancelled)

theorem SameBut.of_veil {i : Nat} {x y : Session} (h : x.veil i = y.veil i) : SameBut i x y := by
  obtain ⟨site, ⟨now, gate, policy, tokens, metrics, permits, kept, log⟩, contexts, tasks⟩ := x
  obtain ⟨site', ⟨now', gate', policy', tokens', metrics', permits', kept', log'⟩, contexts',
    tasks'⟩ := y
  simp only [veil, Scene.veil, Session.mk.injEq, Scene.mk.injEq] at h
  obtain ⟨rfl, ⟨rfl, rfl, rfl, htokens, rfl, rfl, rfl, rfl⟩, rfl, rfl⟩ := h
  refine ⟨rfl, (congrArg Tokens.fresh htokens :).symm, fun j hj => ?_⟩
  have hmem : j ∈ (tokens.veil i).cancelled ↔ j ∈ (tokens'.veil i).cancelled := by rw [htokens]
  simpa only [Tokens.mem_cancelled_veil, and_iff_left hj] using hmem.symm

/-- They have shown the same events, -/
theorem SameBut.log {i : Nat} {x y : Session} (h : SameBut i x y) : y.scene.log = x.scene.log := by
  rw [h.rest]

/-- and they stand at the same gate. -/
theorem SameBut.gate {i : Nat} {x y : Session} (h : SameBut i x y) :
    y.scene.gate = x.scene.gate := by
  rw [h.rest]

/-- Whoever got a ticket does not wait. -/
theorem Told.awaits_eq_false {policy : Policy} {t : Task} {c : Call} {n : Nat} {es : List Event}
    (h : Told policy t c n es) (hn : n ≠ 0) : t.awaits = false := by
  unfold Task.awaits
  cases h with
  | fresh | parked | refused | abandoned | late => exact absurd rfl hn
  | ticket h | running h | ended h | dropped h | cut h => rw [h]

theorem observed_of_not_awaits {t : Task} {c : Call} (hc : t.job = .call c)
    (h : t.awaits = false) : t.observed = [] := by
  unfold Task.observed Task.awaits at *
  rw [hc]
  cases hst : t.stage with
  | fresh | parked =>
      rw [hst] at h
      cases h
  | running | reporting | finished => rfl

/-- Who has been admitted once has been. -/
theorem mem_admissions_append {x : Session} {before : List Move} {k : Nat}
    (h : k ∈ admissions x before) (after : List Move) : k ∈ admissions x (before ++ after) := by
  unfold admissions
  rw [trail_append]
  exact List.mem_append_left _ h

/-- A request that was admitted waits no more. -/
theorem Sound.awaits_of_admitted {x : Session} (h : x.Sound) (hx : x.tasks = []) {ms : List Move}
    {k : Nat} (hin : k ∈ admissions x ms) {t : Task} {c : Call} (hk : (x.run ms).tasks[k]? = some t)
    (hc : t.job = .call c) : t.awaits = false := by
  refine ((h.booked_run hx ms).told k t c hk hc).awaits_eq_false ?_
  exact Nat.ne_of_gt (List.count_pos_iff.mpr hin)

section Cancelling

variable {y : Session} {name : String} {e d : Context}

theorem move_cancel (hname : y.contexts.lookup name = some e) :
    y.move (.tell (.cancel name))
      = { y with scene := { y.scene with tokens := y.scene.tokens.cancel e.token } } := by
  show (y.apply (.cancel name)).1 = _
  simp only [apply, hname]

/-- A cancellation is under the veil of the token that it cancels. -/
theorem veil_move_cancel (hname : y.contexts.lookup name = some e) :
    (y.move (.tell (.cancel name))).veil e.token.id = y.veil e.token.id := by
  rw [move_cancel hname]
  unfold veil Scene.veil
  rw [Tokens.veil_cancel_self rfl]

/-- The context that was cancelled has ended for good. -/
theorem Sound.isDone_run_of_cancel (h : y.Sound) (hname : y.contexts.lookup name = some e)
    (htoken : e.token = d.token) (ms : List Move) (now : Duration) :
    d.isDone ((y.move (.tell (.cancel name))).run ms).scene.tokens now = true := by
  have hcancelled : d.token.id ∈ (y.move (.tell (.cancel name))).scene.tokens.cancelled := by
    rw [move_cancel hname, ← htoken]
    exact List.mem_cons_self
  have hstays := (h.move (.tell (.cancel name))).cancelled_subset_run ms hcancelled
  unfold Context.isDone Token.isCancelled
  rw [Bool.or_eq_true, List.any_eq_true]
  exact .inl ⟨d.token.id, List.mem_cons_self, by simpa using hstays⟩

end Cancelling

section Admitted

variable {x : Session} {before : List Move} {k : Nat} {t : Task} {c : Call} {d : Context}

/-- Once the request is admitted, and as long as nobody else looks at its context, nobody does. -/
theorem Sound.clear_of_admitted (h : x.Sound) (hroot : x.Rooted) (hx : x.tasks = [])
    (hk : (x.run before).tasks[k]? = some t) (hc : t.job = .call c) (hd : c.ambient = some d)
    (hin : k ∈ admissions x before) {ms : List Move}
    (halone : ∀ u ∈ (x.run (before ++ ms)).tasks, u.key ≠ k → u.Blind d.token.id) :
    Clear d.token.id ((x.run before).run ms) := by
  rw [← run_append]
  have hon := (h.run before).onward_run ms
  rw [← run_append] at hon
  obtain ⟨u, hu, hheir⟩ := hon.heir k t hk
  have huc := hheir.job.trans hc
  constructor
  case below =>
    refine (hroot.run h (before ++ ms)).outer d ?_ d.token.id List.mem_cons_self
    exact mem_outer_of_ambient (List.mem_of_getElem? hu) ((ambient_of_call huc).trans hd)
  case blind =>
    intro v hv
    by_cases hkey : v.key = k
    · -- the request itself: it was admitted, and what it waited for is behind it
      obtain ⟨j, hj⟩ := List.mem_iff_getElem?.mp hv
      rw [(h.run (before ++ ms)).keyed j v hj] at hkey
      subst hkey
      cases hj.symm.trans hu
      have hwaits := h.awaits_of_admitted hx (mem_admissions_append hin ms) hu huc
      intro e he
      rw [observed_of_not_awaits huc hwaits] at he
      cases he
    · exact halone v hv hkey

/-- **A CANCELLATION AFTER THE ADMISSION** changes nothing but whether its token was cancelled. -/
theorem Sound.sameBut_of_cancel (h : x.Sound) (hroot : x.Rooted) (hx : x.tasks = [])
    (hk : (x.run before).tasks[k]? = some t) (hc : t.job = .call c) (hd : c.ambient = some d)
    (hin : k ∈ admissions x before) {name : String} {e : Context}
    (hname : (x.run before).contexts.lookup name = some e) (htoken : e.token = d.token)
    {ms : List Move} (halone : ∀ pre post, ms = pre ++ post →
      ∀ u ∈ (x.run (before ++ pre)).tasks, u.key ≠ k → u.Blind d.token.id) :
    SameBut d.token.id ((x.run before).run ms)
      (((x.run before).move (.tell (.cancel name))).run ms) := by
  have hveil := veil_move_cancel hname
  rw [htoken] at hveil
  refine .of_veil (run_veil hveil.symm ms fun pre post he => ?_)
  exact h.clear_of_admitted hroot hx hk hc hd hin (halone pre post he)

/-- **ANOTHER CONTEXT**, one that ended alike as long as the request waited, changes nothing. -/
theorem Sound.run_exchange_of_admitted (h : x.Sound) (hx : x.tasks = []) {first second : List Move}
    (hk : (x.run (first ++ second)).tasks[k]? = some t) (hc : t.job = .call c)
    (hn : c.timeouts = []) (hin : k ∈ admissions x (first ++ second))
    (hlt : k < (x.run first).tasks.length) {e : Option Context}
    (hend : (x.run first).SameEnd second k c.ambient e) (ms : List Move) :
    ((x.run first).exchange k e).run (second ++ ms)
      = (x.run (first ++ second ++ ms)).exchange k e := by
  obtain ⟨u, hu⟩ : ∃ u, (x.run first).tasks[k]? = some u := ⟨_, List.getElem?_eq_getElem hlt⟩
  obtain ⟨v, hv, hheir⟩ := ((h.run first).onward_run second).heir k u hu
  rw [← run_append] at hv
  cases hv.symm.trans hk
  have huc : u.job = .call c := hheir.job.symm.trans hc
  rw [List.append_assoc, run_append x first (second ++ ms)]
  refine run_exchange (h.run first) hu huc hn (second ++ ms) ?_ ?_
  · intro p q _ w hw
    rw [← run_append] at hw
    exact equipped_run hx (first ++ p) w hw
  · -- a point of the run lies behind the admission, where the context is not asked, or before it
    intro p q hp w hw hawaits
    rcases List.append_eq_append_iff.mp hp with ⟨p', rfl, -⟩ | ⟨q', hsecond, -⟩
    · obtain ⟨w', hw', hheir'⟩ := ((h.run (first ++ second)).onward_run p').heir k t hk
      rw [← run_append, List.append_assoc] at hw'
      rw [← run_append] at hw
      cases hw'.symm.trans hw
      have hin' := mem_admissions_append hin p'
      rw [List.append_assoc] at hin'
      rw [h.awaits_of_admitted hx hin' hw (hheir'.job.trans hc)] at hawaits
      cases hawaits
    · exact hend p q' hsecond w hw hawaits

end Admitted

/-- What holds of every beginning of a list can be looked through. -/
theorem forall_mem_inits_iff {α : Type} {l : List α} {P : List α → Prop} :
    (∀ pre post, l = pre ++ post → P pre) ↔ ∀ pre ∈ l.inits, P pre := by
  refine ⟨fun h pre hm => ?_, fun h pre post he => h pre ((List.mem_inits _ _).mpr ⟨post, he.symm⟩)⟩
  obtain ⟨post, he⟩ := (List.mem_inits _ _).mp hm
  exact h pre post he.symm

/-- Runs that are the same at each move but for one token show the same and issue the same. -/
theorem trails_of_sameBut {i : Nat} {x y : Session} {ms : List Move}
    (h : ∀ pre post, ms = pre ++ post → SameBut i (x.run pre) (y.run pre)) :
    admissions y ms = admissions x ms ∧ ∀ j, story j y ms = story j x ms := by
  have hstep : ∀ pre m post, ms = pre ++ m :: post →
      SameBut i (x.run pre) (y.run pre) ∧ SameBut i ((x.run pre).move m) ((y.run pre).move m) := by
    intro pre m post he
    rw [← run_concat, ← run_concat]
    exact ⟨h pre (m :: post) he, h (pre ++ [m]) post (by rw [he, List.append_assoc]; rfl)⟩
  constructor
  · refine trail_congr fun pre m post he => ?_
    obtain ⟨hnow, hnext⟩ := hstep pre m post he
    unfold issuedTo
    split
    · rw [hnow.gate, hnext.gate]
    · rfl
  · refine fun j => trail_congr fun pre m post he => ?_
    obtain ⟨hnow, hnext⟩ := hstep pre m post he
    unfold shownBy shown
    rw [hnow.log, hnext.log]

/-- **CANCELLATION STOPS AT ADMISSION.**  A request that nobody times has been admitted, at the end
of the moves `before`, and nobody else looks at its context.

A cancellation of this context, put in there, changes nothing: at every later point the session is
the one without the cancellation, its gate and its figures included, and the polls of every task
show the same; only the context itself has ended.

Nor does its deadline.  Had the request come with any other context, with another deadline or with
none, and had this one ended only where the other did as long as the request waited, all would be
the same, whichever of the deadlines has come since. -/
theorem cancellation_stops_at_admission {o : Options} {g : Gate} (h : Gate.ofOptions o = .ok g)
    (policy : Policy) (site : Site) (metrics : Option Metrics) (before after : List Move) {k : Nat}
    {t : Task} {c : Call} {d : Context}
    (hk : ((ofGate g policy site metrics).run before).tasks[k]? = some t) (hc : t.job = .call c)
    (hn : c.timeouts = []) (hd : c.ambient = some d)
    (hin : k ∈ admissions (ofGate g policy site metrics) before)
    (halone : ∀ pre post, after = pre ++ post →
      ∀ u ∈ ((ofGate g policy site metrics).run (before ++ pre)).tasks, u.key ≠ k →
        u.Blind d.token.id) :
    let x := ofGate g policy site metrics
    (∀ name e, (x.run before).contexts.lookup name = some e → e.token = d.token →
      let z := (x.run before).move (.tell (.cancel name))
      (∀ pre post, after = pre ++ post →
        SameBut d.token.id (x.run (before ++ pre)) (z.run pre)
          ∧ d.isDone (z.run pre).scene.tokens (z.run pre).scene.now = true)
      ∧ admissions z after = admissions (x.run before) after
      ∧ ∀ j, story j z after = story j (x.run before) after)
    ∧ ∀ first second e, before = first ++ second → k < (x.run first).tasks.length →
        (x.run first).SameEnd second k (some d) e →
        ∀ pre post, after = pre ++ post →
          ((x.run first).exchange k e).run (second ++ pre)
            = (x.run (before ++ pre)).exchange k e := by
  intro x
  have hsound : x.Sound := ofGate_sound h policy site metrics
  have hroot : x.Rooted := ofGate_rooted g policy site metrics
  constructor
  · intro name e hname htoken z
    have hsame : ∀ pre post, after = pre ++ post →
        SameBut d.token.id ((x.run before).run pre) (z.run pre) := by
      intro pre post he
      refine hsound.sameBut_of_cancel hroot rfl hk hc hd hin hname htoken fun p q hp => ?_
      exact halone p (q ++ post) (by rw [he, hp, List.append_assoc])
    refine ⟨fun pre post he => ?_, trails_of_sameBut hsame⟩
    rw [run_append]
    exact ⟨hsame pre post he, (hsound.run before).isDone_run_of_cancel hname htoken pre _⟩
  · rintro first second e rfl hlt hend pre post -
    exact hsound.run_exchange_of_admitted rfl hk hc hn hin hlt (hd ▸ hend) pre

/-- Another request waits for the slot that this one holds. -/
theorem cancellation_stops_at_admission_of_awaited :
    let x := ofGate (Gate.ofLimits 1 2 .unbounded) .standard ⟨.zero, none⟩ none
    let first : List Move :=
      [.tell (.context "c" .root none none [.within (.ofMillis 30)]),
        .tell (.handle "r" (some "c") ⟨true, none, none, .null⟩)]
    let second : List Move :=
      [.poll 0, .tell (.handle "s" none ⟨false, none, none, .null⟩), .poll 1]
    let after : List Move := [.advance 30, .tell (.finish "r"), .poll 0, .poll 1]
    let z := (x.run (first ++ second)).move (.tell (.cancel "c"))
    0 ∈ admissions x (first ++ second)
      ∧ SameBut 0 (x.run (first ++ second ++ after)) (z.run after)
      ∧ ((x.run first).exchange 0 none).run (second ++ after)
        = (x.run (first ++ second ++ after)).exchange 0 none := by
  intro x first second after z
  have hin : 0 ∈ admissions x (first ++ second) := by decide +kernel
  have halone : ∀ pre ∈ after.inits, ∀ u ∈ (x.run (first ++ second ++ pre)).tasks, u.key ≠ 0 →
      ∀ e ∈ u.observed, 0 ∉ e.token.lineage := by
    decide +kernel
  have hend : ∀ pre ∈ second.inits, ∀ t ∈ ((x.run first).run pre).tasks[0]?, t.awaits = true →
      Task.isOver none ((x.run first).run pre).scene
        = Task.isOver (some ⟨none, ⟨0, []⟩, some (.ofMillis 30)⟩)
          ((x.run first).run pre).scene := by
    decide +kernel
  have hstop := cancellation_stops_at_admission (o := (Options.ofLimit 1).withBacklog 1 .unbounded)
    rfl .standard ⟨.zero, none⟩ none (first ++ second) after (k := 0)
    (d := ⟨none, ⟨0, []⟩, some (.ofMillis 30)⟩) rfl rfl rfl rfl hin (forall_mem_inits_iff.mpr halone)
  refine ⟨hin, ?_, ?_⟩
  · exact (hstop.1 "c" _ rfl rfl).1 after [] (List.append_nil _).symm |>.1
  · exact hstop.2 first second none rfl (by decide +kernel) (forall_mem_inits_iff.mpr hend) after []
      (List.append_nil _).symm

end Admission.Session

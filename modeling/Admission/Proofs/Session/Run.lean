/-
  Admission.Proofs.Session.Run — runs of a session, one move at a time.

  A session settles its tasks in rounds, always in the order of their creation.  What is proved here
  and in the modules that follow does not hang on that order: a RUN is any list of moves, and a move
  polls one task, drops the future of one task, carries out one command, or moves the clock.  So a
  task may be polled at any time, or never again, and any number of them may be dropped at any point
  where they wait.

  A TRAIL collects what the moves of a run leave behind, oldest first: the events that they show, or
  the requests that they befall.

  Main results:
    * `trail_concat` — a trail grows at its end;
    * `change` — what one move can do;
    * `fate` — what a move does to one task.
-/
import Admission.Proofs.Session.Round

namespace Admission.Session

/-! ## §1. Moves. -/

/-- The command neither moves the clock nor is made of other commands. -/
def Command.isStill : Command → Bool
  | .advance _ _ | .batch _ => false
  | _ => true

/-- One thing that can happen to a session. -/
inductive Move where
  /-- A task is polled once. -/
  | poll (k : Nat)
  /-- The future of a task is dropped. -/
  | drop (k : Nat)
  /-- A command is carried out. -/
  | tell (c : Command)
  /-- The clock moves, in whole milliseconds. -/
  | advance (ms : Nat)

/-- The move is a poll of task `k`. -/
def Move.polls (k : Nat) : Move → Bool
  | .poll j => j == k
  | _ => false

/-- Something is done with task `k`, if there is one. -/
def onTask (x : Session) (k : Nat) (f : Task → Scene → Task × Scene) : Session :=
  match x.tasks[k]? with
  | some t => { x with tasks := x.tasks.set k (f t x.scene).1, scene := (f t x.scene).2 }
  | none => x

/-- One move. -/
def move (x : Session) : Move → Session
  | .poll k => x.onTask k Task.poll
  | .drop k => x.onTask k Task.abort
  | .tell c => if c.isStill then (x.apply c).1 else x
  | .advance ms => x.tick ms

/-- One move after the other. -/
def run (x : Session) (ms : List Move) : Session := ms.foldl move x

@[simp] theorem run_nil (x : Session) : x.run [] = x := rfl

@[simp] theorem run_cons (x : Session) (m : Move) (ms : List Move) :
    x.run (m :: ms) = (x.move m).run ms := rfl

theorem run_append (x : Session) (ms ms' : List Move) :
    x.run (ms ++ ms') = (x.run ms).run ms' := List.foldl_append

theorem run_concat (x : Session) (ms : List Move) (m : Move) :
    x.run (ms ++ [m]) = (x.run ms).move m := by
  rw [run_append]
  rfl

theorem onTask_of_some {x : Session} {k : Nat} {t : Task} (h : x.tasks[k]? = some t)
    (f : Task → Scene → Task × Scene) :
    x.onTask k f = { x with tasks := x.tasks.set k (f t x.scene).1, scene := (f t x.scene).2 } := by
  simp only [onTask, h]

theorem onTask_of_none {x : Session} {k : Nat} (h : x.tasks[k]? = none)
    (f : Task → Scene → Task × Scene) : x.onTask k f = x := by
  simp only [onTask, h]

/-- The task that a move is about is what has become of it. -/
theorem getElem?_onTask_self {x : Session} {k : Nat} {t : Task} (h : x.tasks[k]? = some t)
    (f : Task → Scene → Task × Scene) : (x.onTask k f).tasks[k]? = some (f t x.scene).1 := by
  rw [onTask_of_some h]
  obtain ⟨hlt, -⟩ := List.getElem?_eq_some_iff.mp h
  show (x.tasks.set k _)[k]? = _
  rw [List.getElem?_set_self hlt]

theorem getElem?_onTask_of_ne {x : Session} {j k : Nat} (hne : k ≠ j)
    (f : Task → Scene → Task × Scene) : (x.onTask k f).tasks[j]? = x.tasks[j]? := by
  unfold onTask
  split
  · exact List.getElem?_set_ne hne
  · rfl

/-- Where one task has changed, a task is that one, or it was there before. -/
theorem mem_set_cases {ts : List Task} {k : Nat} {u v : Task} (h : v ∈ ts.set k u) :
    v = u ∨ ∃ j, j ≠ k ∧ ts[j]? = some v := by
  obtain ⟨j, hj⟩ := List.mem_iff_getElem?.mp h
  by_cases he : j = k
  · obtain ⟨hlt, -⟩ := List.getElem?_eq_some_iff.mp hj
    rw [List.length_set] at hlt
    rw [← he, List.getElem?_set_self hlt] at hj
    exact .inl (Option.some.inj hj).symm
  · rw [List.getElem?_set_ne (Ne.symm he)] at hj
    exact .inr ⟨j, he, hj⟩

/-- A task that comes takes nobody's place. -/
theorem getElem?_addTask {x : Session} {k : Nat} {t : Task} (h : x.tasks[k]? = some t)
    (name : String) (job : Job) : (x.addTask name job).tasks[k]? = some t := by
  show (x.tasks ++ [_])[k]? = _
  rw [List.getElem?_append_left (List.getElem?_eq_some_iff.mp h).1]
  exact h

/-- The scene after a poll of a task. -/
theorem scene_move_poll {x : Session} {k : Nat} {t : Task} (hk : x.tasks[k]? = some t) :
    (x.move (.poll k)).scene = (t.poll x.scene).2 := by
  show (x.onTask k Task.poll).scene = _
  rw [onTask_of_some hk]

/-! ## §2. Trails. -/

/-- What the moves of a run leave behind. -/
def trail {α : Type} (f : Session → Move → List α) : Session → List Move → List α
  | _, [] => []
  | x, m :: ms => f x m ++ trail f (x.move m) ms

theorem trail_append {α : Type} (f : Session → Move → List α) (x : Session)
    (ms ms' : List Move) : trail f x (ms ++ ms') = trail f x ms ++ trail f (x.run ms) ms' := by
  induction ms generalizing x with
  | nil => rfl
  | cons m ms ih =>
      show f x m ++ trail f (x.move m) (ms ++ ms') = _
      rw [ih, ← List.append_assoc]
      rfl

/-- **A TRAIL GROWS AT ITS END.** -/
theorem trail_concat {α : Type} (f : Session → Move → List α) (x : Session) (ms : List Move)
    (m : Move) : trail f x (ms ++ [m]) = trail f x ms ++ f (x.run ms) m := by
  rw [trail_append]
  show _ ++ (f (x.run ms) m ++ []) = _
  rw [List.append_nil]

/-- Whatever is in a trail was left there by one of the moves. -/
theorem exists_of_mem_trail {α : Type} {f : Session → Move → List α} {x : Session}
    {ms : List Move} {a : α} (h : a ∈ trail f x ms) :
    ∃ before m after, ms = before ++ m :: after ∧ a ∈ f (x.run before) m := by
  induction ms generalizing x with
  | nil => cases h
  | cons m ms ih =>
      rcases List.mem_append.mp h with h | h
      · exact ⟨[], m, ms, rfl, h⟩
      · obtain ⟨before, m', after, he, ha⟩ := ih h
        exact ⟨m :: before, m', after, by rw [he, List.cons_append], ha⟩

/-- Two runs leave the same behind if each move does. -/
theorem trail_congr {α : Type} {f : Session → Move → List α} {x y : Session} {ms : List Move}
    (h : ∀ before m after, ms = before ++ m :: after → f (x.run before) m = f (y.run before) m) :
    trail f x ms = trail f y ms := by
  induction ms generalizing x y with
  | nil => rfl
  | cons m ms ih =>
      have hrest : trail f (x.move m) ms = trail f (y.move m) ms :=
        ih fun before m' after he => h (m :: before) m' after (by rw [he, List.cons_append])
      show f x m ++ trail f (x.move m) ms = f y m ++ trail f (y.move m) ms
      rw [hrest, show f x m = f y m from h [] m ms rfl]

/-- The events that a move shows. -/
def shown (x : Session) (m : Move) : List Event :=
  (x.move m).scene.log.drop x.scene.log.length

/-- The events that a move shows if it is a poll of task `k`. -/
def shownBy (k : Nat) (x : Session) (m : Move) : List Event :=
  if m.polls k then x.shown m else []

/-- The call that a move gets a ticket for. -/
def issuedTo (x : Session) : Move → List Nat
  | .poll k =>
      if x.scene.gate.counters.admitted < (x.move (.poll k)).scene.gate.counters.admitted then [k]
      else []
  | _ => []

/-- All events that the polls of task `k` have shown. -/
def story (k : Nat) : Session → List Move → List Event := trail (shownBy k)

/-- The calls for which the gate has issued a ticket, oldest first. -/
def admissions : Session → List Move → List Nat := trail issuedTo

theorem polls_iff {m : Move} {k : Nat} : m.polls k = true ↔ m = .poll k := by
  cases m with
  | poll j =>
      show (j == k) = true ↔ Move.poll j = .poll k
      rw [beq_iff_eq, Move.poll.injEq]
  | drop | tell | advance => exact ⟨nofun, nofun⟩

theorem poll_or_not (m : Move) : (∃ k, m = .poll k) ∨ ∀ k, m.polls k = false := by
  cases m with
  | poll k => exact .inl ⟨k, rfl⟩
  | drop | tell | advance => exact .inr fun _ => rfl

theorem shownBy_of_not_polls {m : Move} {k : Nat} (h : m.polls k = false) (x : Session) :
    shownBy k x m = [] := by
  unfold shownBy
  rw [h, if_neg Bool.false_ne_true]

theorem shownBy_poll (k : Nat) (x : Session) : shownBy k x (.poll k) = x.shown (.poll k) :=
  if_pos (polls_iff.mpr rfl)

theorem issuedTo_of_not_polls {m : Move} {k : Nat} (h : m.polls k = false) (x : Session) :
    k ∉ x.issuedTo m := by
  intro hm
  unfold issuedTo at hm
  split at hm
  next j =>
    split at hm
    · have hjk : k = j := List.mem_singleton.mp hm
      rw [hjk, polls_iff.mpr rfl] at h
      cases h
    · cases hm
  next => cases hm

theorem shown_of_log {x : Session} {m : Move} {es : List Event}
    (h : (x.move m).scene.log = x.scene.log ++ es) : x.shown m = es := by
  unfold shown
  rw [h, List.drop_left]

/-! ## §3. What one move can do. -/

/-- The contexts that a job brings along. -/
def Job.contexts : Job → List Context
  | .call c => c.ambient.toList
  | .watch c => [c]
  | .free _ | .report _ => []

/-- A job that can come to a session: its context has a name there, and its handler announces itself
at the start or not at all. -/
structure Admissible (x : Session) (job : Job) : Prop where
  contexts : ∀ c ∈ job.contexts, c ∈ x.contexts.map (·.2)
  quiet : ∀ c, job = .call c → .announce ∉ c.script.actions.tail

/-- **THE CASES OF A COMMAND.** -/
inductive Order (x : Session) : Session → Prop where
  | idle : Order x x
  | dropped {k : Nat} {t : Task} (hk : x.tasks[k]? = some t) : Order x (x.onTask k Task.abort)
  /-- A task comes. -/
  | came (name : String) {job : Job} (h : Admissible x job) : Order x (x.addTask name job)
  | contextMade (name : String) (origin : Origin) (tokenOf requestId : Option String)
      (limits : List Limit) : Order x (x.makeContext name origin tokenOf requestId limits)
  | cancelled {name : String} {c : Context} (h : x.contexts.lookup name = some c) :
      Order x { x with scene := { x.scene with tokens := x.scene.tokens.cancel c.token } }
  | permitted (name : String) : Order x { x with scene := x.scene.givePermit name }
  /-- A ticket that a caller keeps is released. -/
  | released {name : String} {key : Nat} (h : x.scene.kept.lookup name = some key) :
      Order x { x with scene := { x.scene with gate := x.scene.gate.release key } }
  /-- A ticket that a caller keeps is dropped. -/
  | discarded {name : String} {key : Nat} (h : x.scene.kept.lookup name = some key) :
      Order x { x with scene := { x.scene.discardTicket key with
        kept := x.scene.kept.filter (·.1 != name) } }

/-- **THE CASES OF A MOVE.** -/
inductive Change (x : Session) : Session → Prop where
  | polled {k : Nat} {t : Task} (hk : x.tasks[k]? = some t) : Change x (x.onTask k Task.poll)
  | ordered {y : Session} (h : Order x y) : Change x y
  | ticked (ms : Nat) : Change x (x.tick ms)

theorem mem_of_lookup {α : Type} {name : String} {a : α} {l : List (String × α)}
    (h : l.lookup name = some a) : (name, a) ∈ l := by
  obtain ⟨pre, post, rfl, -⟩ := List.lookup_eq_some_iff.mp h
  simp

theorem mem_contexts_of_context? {x : Session} {name : Option String} {c : Context}
    (h : x.context? name = some c) : c ∈ x.contexts.map (·.2) := by
  unfold context? at h
  obtain ⟨n, -, hn⟩ := Option.bind_eq_some_iff.mp h
  exact List.mem_map.mpr ⟨(n, c), mem_of_lookup hn, rfl⟩

theorem announce_notMem_tail (h : Handler) : Action.announce ∉ h.actions.tail := by
  unfold Handler.actions
  show Action.announce ∉ (if h.hold then [Action.awaitPermit] else []) ++ _
  rw [List.mem_append]
  rintro (hm | hm)
  · cases hh : h.hold <;> simp [hh] at hm
  · cases hs : h.sleep <;> simp [hs] at hm

/-- A call that a command makes of a named context. -/
theorem admissible_call (x : Session) (name : Option String) {c : Call}
    (hc : c.ambient = x.context? name) (hs : Action.announce ∉ c.script.actions.tail) :
    Admissible x (.call c) := by
  constructor
  · intro d hd
    have hd : c.ambient = some d := by simpa [Job.contexts] using hd
    exact mem_contexts_of_context? (hc ▸ hd)
  · intro d hd
    cases hd
    exact hs

theorem announce_notMem_workScript (site : Site) :
    Action.announce ∉ (workScript site).actions.tail := by
  unfold workScript
  cases hz : decide (site.workDelay.nanos = 0) <;> simp at hz <;> simp [hz]

theorem announce_notMem_readScript (r : Http.Request) {work : Script}
    (h : Action.announce ∉ work.actions.tail) :
    Action.announce ∉ (readScript r work).actions.tail := by
  unfold readScript
  split
  · exact h
  · exact List.not_mem_nil

theorem announce_notMem_layerScript (r : Http.Request) {work : Script}
    (h : Action.announce ∉ work.actions.tail) :
    Action.announce ∉ (layerScript r work).actions.tail := by
  unfold layerScript
  split
  · exact announce_notMem_readScript r h
  · exact List.not_mem_nil

/-- The task that is dropped by its name is the first one of that name that has not ended. -/
theorem exists_of_abortFirst {name : String} :
    ∀ {ts : List Task} {s : Scene} {out : List Task × Scene}, abortFirst name ts s = some out →
      ∃ k t, ts[k]? = some t ∧ out = (ts.set k (t.abort s).1, (t.abort s).2)
  | [], s, out, h => by simp [abortFirst] at h
  | t :: rest, s, out, h => by
      unfold abortFirst at h
      split at h
      · have hout := Option.some.inj h
        exact ⟨0, t, rfl, hout.symm⟩
      · obtain ⟨p, hp, hout⟩ := Option.map_eq_some_iff.mp h
        obtain ⟨k, u, hk, hpair⟩ := exists_of_abortFirst hp
        refine ⟨k + 1, u, hk, ?_⟩
        rw [← hout, hpair]
        rfl

theorem order_dropNamed (x : Session) (name : String) : Order x (x.dropNamed name).1 := by
  unfold dropNamed
  split
  next key hk => exact .discarded hk
  next =>
    split
    next tasks scene ha =>
      obtain ⟨k, t, hk, hout⟩ := exists_of_abortFirst ha
      obtain ⟨rfl, rfl⟩ := Prod.mk.inj hout
      have hdrop : Order x (x.onTask k Task.abort) := .dropped hk
      rwa [onTask_of_some hk] at hdrop
    next => exact .idle

theorem order_releaseKept (x : Session) (name : String) : Order x (x.releaseKept name).1 := by
  unfold releaseKept
  split
  next => exact .idle
  next key hk =>
    split
    next => exact .idle
    next => exact .released hk

/-- What a command can do. -/
theorem order_apply (x : Session) {c : Command} (hc : c.isStill = true) :
    Order x (x.apply c).1 := by
  cases c with
  | context name origin tokenOf requestId limits =>
      simp only [apply]
      exact .contextMade name origin tokenOf requestId limits
  | cancel context =>
      simp only [apply]
      split
      next c hc => exact .cancelled hc
      next => exact .idle
  | watch name context =>
      simp only [apply]
      split
      next c hc =>
        -- what is watched is a context that has a name
        refine .came name ⟨?_, ?_⟩
        · intro d hd
          have hd : d = c := by simpa [Job.contexts] using hd
          subst hd
          exact List.mem_map.mpr ⟨(context, d), mem_of_lookup hc, rfl⟩
        · intro d hd
          cases hd
      next => exact .idle
  | acquire name context =>
      simp only [apply]
      refine .came name (admissible_call x context rfl ?_)
      simp
  | handle name context handler =>
      simp only [apply]
      exact .came name (admissible_call x context rfl (announce_notMem_tail handler))
  | layer name context handler deadlines request =>
      simp only [apply, layerJob_eq]
      exact .came name (admissible_call x context rfl
        (announce_notMem_layerScript request (announce_notMem_tail handler)))
  | http name context request =>
      simp only [apply]
      refine .came name ?_
      rcases siteJob_cases x.site (x.context? context) request with hjob | hjob
      · rw [hjob]
        refine ⟨?_, ?_⟩
        · intro c hc
          cases hc
        · intro c hc
          cases hc
      · -- the page behind the gate
        rw [hjob]
        exact admissible_call x context rfl
          (announce_notMem_readScript request (announce_notMem_workScript x.site))
  | finish name =>
      simp only [apply]
      exact .permitted name
  | release name =>
      simp only [apply]
      exact order_releaseKept x name
  | drop name =>
      simp only [apply]
      exact order_dropNamed x name
  | report interval =>
      simp only [apply]
      -- the reporter has neither a context nor a script
      refine .came "" ⟨?_, ?_⟩
      · intro c hc
        cases hc
      · intro c hc
        cases hc
  | metrics =>
      simp only [apply]
      split <;> exact .idle
  | advance d times => cases hc
  | batch commands => cases hc

/-- What a move can do that is no poll. -/
theorem order_or_tick (x : Session) {m : Move} (hm : ∀ k, m.polls k = false) :
    Order x (x.move m) ∨ ∃ ms, x.move m = x.tick ms := by
  cases m with
  | poll k => exact absurd ((polls_iff.mpr rfl).symm.trans (hm k)) nofun
  | drop k =>
      show Order x (x.onTask k Task.abort) ∨ _
      cases hk : x.tasks[k]? with
      | none =>
          rw [onTask_of_none hk]
          exact .inl .idle
      | some t => exact .inl (.dropped hk)
  | tell c =>
      unfold move
      simp only
      split
      next hc => exact .inl (order_apply x hc)
      next => exact .inl .idle
  | advance ms => exact .inr ⟨ms, rfl⟩

/-- **WHAT ONE MOVE CAN DO.** -/
theorem change (x : Session) (m : Move) : Change x (x.move m) := by
  rcases poll_or_not m with ⟨k, rfl⟩ | hm
  · show Change x (x.onTask k Task.poll)
    cases hk : x.tasks[k]? with
    | none =>
        rw [onTask_of_none hk]
        exact .ordered .idle
    | some t => exact .polled hk
  · rcases order_or_tick x hm with ho | ⟨ms, he⟩
    · exact .ordered ho
    · rw [he]
      exact .ticked ms

/-! ## §4. What befalls one task. -/

/-- No command but a drop does anything to a task that has come before. -/
theorem Order.fate {x y : Session} (h : Order x y) {k : Nat} {t : Task}
    (hk : x.tasks[k]? = some t) : y = x.onTask k Task.abort ∨ y.tasks[k]? = some t := by
  cases h with
  | @dropped j u hj =>
      by_cases he : j = k
      · subst he
        exact .inl rfl
      · rw [getElem?_onTask_of_ne he]
        exact .inr hk
  | came name h =>
      exact .inr (getElem?_addTask hk name _)
  | idle | contextMade | cancelled | permitted | released | discarded => exact .inr hk

/-- **WHAT A MOVE DOES TO A TASK**: it polls it, it drops it, or it leaves it as it is. -/
theorem fate (x : Session) (m : Move) {k : Nat} {t : Task} (hk : x.tasks[k]? = some t) :
    m = .poll k ∨ (m.polls k = false
      ∧ (x.move m = x.onTask k Task.abort ∨ (x.move m).tasks[k]? = some t)) := by
  rcases poll_or_not m with ⟨j, rfl⟩ | hm
  · by_cases he : j = k
    · subst he
      exact .inl rfl
    · refine .inr ⟨by simpa [Move.polls] using he, .inr ?_⟩
      show (x.onTask j Task.poll).tasks[k]? = _
      rw [getElem?_onTask_of_ne he]
      exact hk
  · refine .inr ⟨hm k, ?_⟩
    rcases order_or_tick x hm with ho | ⟨ms, hx⟩
    · exact ho.fate hk
    · rw [hx]
      exact .inr hk

/-- A task that was not there before has just come. -/
theorem Order.fresh_of_new {x y : Session} (h : Order x y) {k : Nat} {u : Task}
    (hn : x.tasks.length ≤ k) (hu : y.tasks[k]? = some u) : u.stage = .fresh := by
  have hnone : x.tasks[k]? = none := List.getElem?_eq_none hn
  cases h with
  | @dropped j t hj =>
      rw [onTask_of_some hj] at hu
      have hlen : (x.tasks.set j (t.abort x.scene).1).length ≤ k := by
        rw [List.length_set]
        exact hn
      rw [show (x.tasks.set j (t.abort x.scene).1)[k]? = none from List.getElem?_eq_none hlen] at hu
      cases hu
  | @came name job h =>
      have hu : (x.tasks ++ [⟨x.tasks.length, name, job, .fresh⟩])[k]? = some u := hu
      rw [List.getElem?_append_right hn] at hu
      obtain ⟨hlt, he⟩ := List.getElem?_eq_some_iff.mp hu
      simp only [List.getElem_singleton] at he
      rw [← he]
  | idle | contextMade | cancelled | permitted | released | discarded =>
      have hu : x.tasks[k]? = some u := hu
      rw [hnone] at hu
      cases hu

theorem move_poll_of_none {x : Session} {k : Nat} (h : x.tasks.length ≤ k) :
    x.move (.poll k) = x :=
  onTask_of_none (List.getElem?_eq_none h) _

theorem fresh_of_new {x : Session} (m : Move) {k : Nat} {u : Task} (hn : x.tasks.length ≤ k)
    (hu : (x.move m).tasks[k]? = some u) : u.stage = .fresh := by
  have hc := change x m
  generalize x.move m = y at hc hu
  cases hc with
  | @polled j t hj =>
      rw [onTask_of_some hj] at hu
      have hlen : (x.tasks.set j (t.poll x.scene).1).length ≤ k := by
        rw [List.length_set]
        exact hn
      rw [show (x.tasks.set j (t.poll x.scene).1)[k]? = none from List.getElem?_eq_none hlen] at hu
      cases hu
  | ordered ho => exact ho.fresh_of_new hn hu
  | ticked =>
      rw [show (x.tick _).tasks[k]? = none from List.getElem?_eq_none hn] at hu
      cases hu

end Admission.Session

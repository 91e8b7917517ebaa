/-
  Admission.Proofs.Session.Veil — the end of a context that nobody looks at.

  Whether a token was cancelled is asked by those who look at a context that stands under it: by a
  request at its first poll, by a parked one, and by whoever waits for the end of a context.  A
  request that has been admitted looks at none.

  The VEIL hides of one token whether it was cancelled.  As long as nobody looks at what stands under
  this token, sessions that are the same under the veil stay the same under it, move by move.

  Main results:
    * `poll_veil`, `move_veil` — what is under the veil decides nothing;
    * `run_veil` — **runs that are the same under the veil stay so**.
-/
import Admission.Proofs.Session.Handlers
import Admission.Proofs.Session.Lineage
import Admission.Proofs.Session.Overlay

namespace Admission

/-! ## §1. Tokens. -/

/-- The tokens, where it is not told whether token `i` was cancelled. -/
def Tokens.veil (i : Nat) (ts : Tokens) : Tokens :=
  { ts with cancelled := ts.cancelled.filter (· != i) }

namespace Tokens

variable {i : Nat} {ts ts' : Tokens}

theorem veil_veil (i : Nat) (ts : Tokens) : (ts.veil i).veil i = ts.veil i := by
  unfold veil
  simp only [List.filter_filter, Bool.and_self]

theorem veil_cancel (i : Nat) (ts : Tokens) (t : Token) :
    ((ts.veil i).cancel t).veil i = (ts.cancel t).veil i := by
  unfold veil cancel
  simp only [List.filter_cons, List.filter_filter, Bool.and_self]

/-- It is told of every other token. -/
theorem mem_cancelled_veil {j : Nat} : j ∈ (ts.veil i).cancelled ↔ j ∈ ts.cancelled ∧ j ≠ i := by
  unfold veil
  simp

/-- The cancelled token itself is under the veil. -/
theorem veil_cancel_self {t : Token} (h : t.id = i) : (ts.cancel t).veil i = ts.veil i := by
  unfold veil cancel
  simp [h]

end Tokens

/-- A token that does not stand under token `i` is cancelled or not, whatever `i` is. -/
theorem isCancelled_veil {i : Nat} {t : Token} (h : i ∉ t.lineage) (ts : Tokens) :
    t.isCancelled (ts.veil i) = t.isCancelled ts := by
  unfold Token.isCancelled
  rw [Bool.eq_iff_iff, List.any_eq_true, List.any_eq_true]
  refine exists_congr fun j => and_congr_right fun hj => ?_
  have hne : j ≠ i := fun he => h (he ▸ hj)
  simp [Tokens.veil, hne]

theorem isDone_veil {i : Nat} {c : Context} (h : i ∉ c.token.lineage) (ts : Tokens)
    (now : Duration) : c.isDone (ts.veil i) now = c.isDone ts now := by
  unfold Context.isDone
  rw [isCancelled_veil h]

namespace Session

open Context (lineageOf)

/-! ## §2. Scenes and sessions. -/

/-- The contexts whose end the next poll of a task would see. -/
def Task.observed (t : Task) : List Context :=
  match t.job, t.stage with
  | .call c, .fresh => c.ambient.toList
  | .call _, .parked _ context => context.toList
  | .watch _, .finished => []
  | .watch c, _ => [c]
  | _, _ => []

/-- The scene, where it is not told whether token `i` was cancelled. -/
def Scene.veil (i : Nat) (s : Scene) : Scene := { s with tokens := s.tokens.veil i }

/-- The session, where it is not told whether token `i` was cancelled. -/
def veil (i : Nat) (x : Session) : Session := { x with scene := x.scene.veil i }

/-- What a poll comes to, where it is not told whether token `i` was cancelled. -/
def Task.veil (i : Nat) (out : Task × Scene) : Task × Scene := (out.1, out.2.veil i)

theorem Scene.veil_veil (i : Nat) (s : Scene) : (s.veil i).veil i = s.veil i :=
  congrArg (fun tokens => { s with tokens }) (s.tokens.veil_veil i)

theorem veil_veil (i : Nat) (x : Session) : (x.veil i).veil i = x.veil i :=
  congrArg (fun scene => { x with scene }) (x.scene.veil_veil i)

/-- What is under the veil is read of the tokens, and of nothing else. -/
theorem overlay_veil (i : Nat) : Overlay (Scene.veil i) := by
  constructor <;> exact fun _ => by intros; rfl

/-! ## §3. Polls. -/

/-- A guard that fires cancels its own token, whichever token is under the veil. -/
theorem cancel_veil (i : Nat) (s : Scene) (t : Token) :
    Scene.veil i { s.veil i with tokens := (s.veil i).tokens.cancel t }
      = Scene.veil i { s with tokens := s.tokens.cancel t } :=
  congrArg (fun tokens => { s with tokens }) (s.tokens.veil_cancel i t)

section Arming

variable {i : Nat} {ts : Tokens} {c : Option Context}

/-- The guards of a request that stands apart from token `i` stand apart from it. -/
theorem notMem_guardContext (hi : i < ts.fresh) (hc : i ∉ lineageOf c) (deadline : Duration) :
    i ∉ (guardContext c ts deadline).token.lineage := by
  rw [token_guardContext]
  intro hm
  rcases List.mem_cons.mp hm with he | hm
  · exact Nat.ne_of_lt hi he
  · exact hc hm

theorem arm_veil (now : Duration) (ds : List Duration) (hi : i < ts.fresh)
    (hc : i ∉ lineageOf c) : Task.arm now ds c (ts.veil i)
      = { Task.arm now ds c ts with tokens := (Task.arm now ds c ts).tokens.veil i } := by
  -- each guard makes a new token, so the one under the veil is never among those that it cancels
  induction ds generalizing c ts with
  | nil => rfl
  | cons d rest ih =>
      have hinner := notMem_guardContext hi hc (now + d)
      have hsame : guardContext c (ts.veil i) (now + d) = guardContext c ts (now + d) := by
        cases c <;> rfl
      rw [arm_cons, arm_cons, hsame]
      have hne : (guardContext c ts (now + d)).token.id ≠ i := by
        intro he
        exact hinner (he ▸ List.mem_cons_self)
      split
      · simp [Tokens.veil, Tokens.cancel, hne]
      · have hfresh : i < (Tokens.mk (ts.fresh + 1) ts.cancelled).fresh := Nat.lt_succ_of_lt hi
        have hinner : i ∉ lineageOf (some (guardContext c ts (now + d))) := hinner
        show Task.Armed.mk _ _ _ _ = _
        rw [show (Tokens.mk ((ts.veil i).fresh + 1) (ts.veil i).cancelled)
          = Tokens.veil i { ts with fresh := ts.fresh + 1 } from rfl, ih hfresh hinner]

theorem notMem_arm (now : Duration) (ds : List Duration) (hi : i < ts.fresh)
    (hc : i ∉ lineageOf c) : i ∉ lineageOf (Task.arm now ds c ts).context := by
  have ha := sprouted_arm now ds c ts
  -- a context within guards hangs on their tokens, which are new, and on what the one around hangs on
  rcases ha.context with he | ⟨g, hg, d, he, ht⟩
  · rw [he]
    exact hc
  · rw [he]
    show i ∉ d.token.lineage
    rw [ht]
    intro hm
    rcases ha.lineage g hg i hm with hm | hm
    · obtain ⟨g', hg', rfl⟩ := List.mem_map.mp hm
      exact Nat.not_lt_of_le (ha.bounds hg').1 hi
    · exact hc hm

end Arming

section Polls

variable {i : Nat} {t : Task} {c : Call} {s s0 : Scene} {guards : List Guard}
  {context : Option Context} {v : Verdict} {todo : List Action}

/-- A task that looks at nothing that stands under token `i`. -/
def Task.Blind (i : Nat) (t : Task) : Prop := ∀ d ∈ t.observed, i ∉ d.token.lineage

theorem isOver_veil (hc : i ∉ lineageOf context) (s : Scene) :
    Task.isOver context (s.veil i) = Task.isOver context s := by
  cases context with
  | none => rfl
  | some d => exact isDone_veil hc s.tokens s.now

theorem Task.Blind.notMem_ambient (h : t.Blind i) (hc : t.job = .call c) (hst : t.stage = .fresh) :
    i ∉ lineageOf c.ambient := by
  unfold Task.Blind Task.observed at h
  rw [hc, hst] at h
  cases ha : c.ambient with
  | none => exact List.not_mem_nil
  | some d => exact h d (by simp [ha])

theorem Task.Blind.notMem_parked (h : t.Blind i) (hc : t.job = .call c)
    (hst : t.stage = .parked guards context) : i ∉ lineageOf context := by
  unfold Task.Blind Task.observed at h
  rw [hc, hst] at h
  cases context with
  | none => exact List.not_mem_nil
  | some d => exact h d (by simp)

/-- **A REQUEST THAT DOES NOT LOOK AT THE TOKEN** asks at the gate as ever. -/
theorem Asks.veil (h : Asks t c s guards context s0 v) (hc : t.job = .call c)
    (hi : i < s.tokens.fresh) (hb : t.Blind i) :
    Asks t c (s.veil i) guards context (s0.veil i) v := by
  cases h with
  | @enters a g _ hf ha hn hg =>
      have hambient := hb.notMem_ambient hc hf
      have harm := arm_veil s.now c.timeouts hi hambient
      have hcontext := notMem_arm s.now c.timeouts hi hambient
      rw [ha] at harm hcontext
      refine .enters (a := { a with tokens := a.tokens.veil i }) hf harm hn ?_
      rw [← hg]
      exact congrArg (s.gate.enter t.key s.now) (isOver_veil hcontext { s with tokens := a.tokens })
  | resumes hp hd hg =>
      refine .resumes hp hd ?_
      rw [isOver_veil (hb.notMem_parked hc hp)]
      exact hg

/-- Its guards fire as ever. -/
theorem Fires.veil (h : Fires t c s s0) (hc : t.job = .call c) (hi : i < s.tokens.fresh)
    (hb : t.Blind i) : ∃ s1, Fires t c (s.veil i) s1 ∧ s1.veil i = s0.veil i := by
  cases h with
  | @atOnce a hf ha hy =>
      have harm := arm_veil s.now c.timeouts hi (hb.notMem_ambient hc hf)
      rw [ha] at harm
      exact ⟨_, .atOnce (a := { a with tokens := a.tokens.veil i }) hf harm hy,
        Scene.veil_veil i { s with tokens := a.tokens }⟩
  | parked hp hd =>
      refine ⟨_, .parked hp hd, ?_⟩
      rw [← (overlay_veil i).abandon, ← (overlay_veil i).abandon, cancel_veil]
  | running hp hd =>
      refine ⟨_, .running hp hd, ?_⟩
      exact congrArg (fun s : Scene => s.discardTicket t.key) (cancel_veil i s _)

theorem Acts.veil (h : Acts t c s guards todo s0) (hc : t.job = .call c)
    (hi : i < s.tokens.fresh) (hb : t.Blind i) :
    Acts t c (s.veil i) guards todo (s0.veil i) := by
  cases h with
  | begins hask hr => exact .begins (hask.veil hc hi hb) hr
  | goesOn hp hd => exact .goesOn hp hd

/-- A task that waits for the end of a context that stands apart sees it alike. -/
theorem Task.Blind.isDone_eq (h : t.Blind i) {d : Context} (hj : t.job = .watch d)
    (hn : t.stage ≠ .finished) (s : Scene) :
    d.isDone (s.veil i).tokens s.now = d.isDone s.tokens s.now := by
  refine isDone_veil (h d ?_) s.tokens s.now
  unfold Task.observed
  rw [hj]
  cases hst : t.stage with
  | finished => exact absurd hst hn
  | fresh | parked | running | reporting => exact List.mem_singleton_self d

/-- **A POLL THAT DOES NOT LOOK AT THE TOKEN** comes to the same. -/
theorem poll_veil (hi : i < s.tokens.fresh) (hb : t.Blind i) :
    Task.veil i (t.poll (s.veil i)) = Task.veil i (t.poll s) := by
  have hidem : ∀ out : Task × Scene, Task.veil i (Task.veil i out) = Task.veil i out :=
    fun out => congrArg (Prod.mk out.1) (Scene.veil_veil i out.2)
  -- but for a guard that fires, a poll under the veil is the poll with the veil over it
  have hover : t.poll (s.veil i) = Task.veil i (t.poll s) →
      Task.veil i (t.poll (s.veil i)) = Task.veil i (t.poll s) := by
    intro he
    rw [he, hidem]
  rcases call_or_not t with ⟨c, hc⟩ | hj
  · have hasks : ∀ {guards context s0 v}, Asks t c s guards context s0 v →
        Task.veil i (t.poll (s.veil i)) = Task.veil i (t.poll s) := by
      intro guards context s0 v hask
      refine hover ?_
      rw [(hask.veil hc hi hb).poll_eq hc, hask.poll_eq hc]
      exact (overlay_veil i).settleVerdict t c guards context s0 v fun _ _ => rfl
    have hturn := turn_poll hc s
    generalize hout : t.poll s = out at hturn
    cases hturn with
    | idle hst =>
        rcases hst with hst | ⟨next, hst⟩
        · rw [poll_of_finished hst]
          exact hidem (t, s)
        · have hidle : t.poll (s.veil i) = (t, s.veil i) := by
            unfold Task.poll
            rw [hc, hst]
          rw [hidle]
          exact hidem (t, s)
    | @late s0 hfire =>
        -- the token that the guard cancels may be the one under the veil
        obtain ⟨s1, hfire', he⟩ := hfire.veil hc hi hb
        rw [hfire'.poll_eq hc]
        show (t.finish, ((s1.veil i).record _).emit _) = (t.finish, ((s0.veil i).record _).emit _)
        rw [he]
    | parks hask => exact hout ▸ hasks hask
    | refused hask => exact hout ▸ hasks hask
    | keeps hask => exact hout ▸ hasks hask
    | @acts guards todo s0 hact =>
        rw [(hact.veil hc hi hb).poll_eq hc, (overlay_veil i).proceed]
        exact hidem (t.proceed c guards todo s0)
  · exact hover ((overlay_veil i).poll_aside hj s fun _ hjob hn => hb.isDone_eq hjob hn s)

end Polls

/-! ## §4. Runs. -/

/-- Token `i` has been made, and no task looks at what stands under it. -/
structure Clear (i : Nat) (x : Session) : Prop where
  below : i < x.scene.tokens.fresh
  blind : ∀ t ∈ x.tasks, t.Blind i

section Moves

variable {i : Nat} {x y : Session}

theorem onTask_veil {f : Task → Scene → Task × Scene} {k : Nat}
    (h : ∀ t, x.tasks[k]? = some t →
      Task.veil i (f t (x.scene.veil i)) = Task.veil i (f t x.scene)) :
    ((x.veil i).onTask k f).veil i = (x.onTask k f).veil i :=
  onTask_onScene (Scene.veil i) (Scene.veil i) (Scene.veil i) (Scene.veil_veil i x.scene) h

/-- A new context does not hang on what was cancelled. -/
theorem makeContext_veil (i : Nat) (x : Session) (name : String) (origin : Origin)
    (tokenOf requestId : Option String) (limits : List Limit) :
    (x.veil i).makeContext name origin tokenOf requestId limits
      = (x.makeContext name origin tokenOf requestId limits).veil i := by
  cases origin with
  | root => rfl
  | childOf p | cloneOf p =>
      cases hp : x.contexts.lookup p <;>
        (unfold makeContext
         simp only [show (x.veil i).contexts = x.contexts from rfl, hp]
         rfl)

/-- No command looks at what was cancelled. -/
theorem apply_veil (i : Nat) (x : Session) {c : Command} (hc : c.isStill = true) :
    ((x.veil i).apply c).1.veil i = (x.apply c).1.veil i := by
  have hidem : ∀ y : Session, (y.veil i).veil i = y.veil i := veil_veil i
  have hcome : ∀ name job, ((x.veil i).addTask name job).veil i = (x.addTask name job).veil i :=
    fun name job => hidem (x.addTask name job)
  -- what a command looks at is the same behind the veil
  cases c with
  | context name origin tokenOf requestId limits =>
      simp only [apply]
      rw [makeContext_veil, hidem]
  | acquire | handle | layer | http | report =>
      simp only [apply]
      exact hcome _ _
  | finish name =>
      simp only [apply]
      exact hidem { x with scene := x.scene.givePermit name }
  | cancel context =>
      simp only [apply]
      rw [show (x.veil i).contexts = x.contexts from rfl]
      cases x.contexts.lookup context with
      | none => exact hidem x
      | some c => exact congrArg (fun scene => { x with scene }) (cancel_veil i x.scene c.token)
  | watch name context =>
      simp only [apply]
      rw [show (x.veil i).contexts = x.contexts from rfl]
      cases x.contexts.lookup context with
      | none => exact hidem x
      | some c => exact hcome name (.watch c)
  | release name =>
      simp only [apply]
      exact (congrArg (Session.veil i) ((overlay_veil i).releaseKept x name)).trans (hidem _)
  | drop name =>
      simp only [apply]
      exact (congrArg (Session.veil i) ((overlay_veil i).dropNamed x name)).trans (hidem _)
  | metrics =>
      simp only [apply]
      rw [show (x.veil i).scene.metrics = x.scene.metrics from rfl]
      cases x.scene.metrics <;> exact hidem x
  | advance | batch => cases hc

/-- **ONE MOVE UNDER THE VEIL.** -/
theorem move_veil (h : Clear i x) (m : Move) : ((x.veil i).move m).veil i = (x.move m).veil i := by
  cases m with
  | poll k => exact onTask_veil fun t ht => poll_veil h.below (h.blind t (List.mem_of_getElem? ht))
  | drop k =>
      refine onTask_veil fun t _ => ?_
      rw [(overlay_veil i).abort]
      exact congrArg (Prod.mk (t.abort x.scene).1) (Scene.veil_veil i (t.abort x.scene).2)
  | tell c =>
      unfold move
      simp only
      split
      next hc => exact apply_veil i x hc
      next => exact veil_veil i x
  | advance ms => exact veil_veil i (x.tick ms)

/-- Under the veil it is still told who looks at what. -/
theorem Clear.of_veil (h : Clear i x) (he : x.veil i = y.veil i) : Clear i y := by
  have htasks : x.tasks = y.tasks := (congrArg Session.tasks he :)
  have hfresh : x.scene.tokens.fresh = y.scene.tokens.fresh :=
    (congrArg (fun z : Session => z.scene.tokens.fresh) he :)
  exact ⟨hfresh ▸ h.below, htasks ▸ h.blind⟩

/-- **RUNS THAT ARE THE SAME UNDER THE VEIL STAY SO**, as long as nobody looks at the token. -/
theorem run_veil (he : x.veil i = y.veil i) (ms : List Move)
    (h : ∀ before after, ms = before ++ after → Clear i (x.run before)) :
    (x.run ms).veil i = (y.run ms).veil i := by
  induction ms using List.reverseRecOn with
  | nil => exact he
  | append_singleton ms m ih =>
      have hsame := ih fun before after hb =>
        h before (after ++ [m]) (by rw [hb, List.append_assoc])
      have hclear := h ms [m] rfl
      rw [run_concat, run_concat, ← move_veil hclear, ← move_veil (hclear.of_veil hsame), hsame]

end Moves

end Session

end Admission

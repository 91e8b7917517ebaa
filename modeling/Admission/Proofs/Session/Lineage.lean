/-
  Admission.Proofs.Session.Lineage — whose tokens a task can cancel.

  The guards of a request make contexts of their own, below the one that the request came with.  No
  context that comes from the outside stands below them, and no context of another request does.  So
  a guard that fires cancels what is within it, and nothing else.

  Main results:
    * `growth_poll` — what a poll does to the tokens;
    * `Rooted.move`, `Rooted.run` — the tokens of a request stay its own;
    * `Rooted.isCancelled_poll` — **a poll of one task cancels no context from outside and no context
      of another task**.
-/
import Admission.Proofs.Session.Arming
import Admission.Proofs.Session.Sound

namespace Admission.Session

open Context (lineageOf)

/-! ## §1. Whose token is whose. -/

namespace Task

/-- The guards that a request has reached and not left. -/
def guards (t : Task) : List Guard :=
  match t.stage with
  | .parked guards _ => guards
  | .running guards _ => guards
  | _ => []

/-- The tokens of the contexts that a request has within its guards. -/
def tokens (t : Task) : List Token :=
  match t.stage with
  | .parked guards context => guards.map (·.token) ++ (context.map (·.token)).toList
  | .running guards _ => guards.map (·.token)
  | _ => []

/-- The context that a request came with. -/
def ambient (t : Task) : Option Context :=
  match t.job with
  | .call c => c.ambient
  | _ => none

theorem token_mem_tokens {t : Task} {g : Guard} (hg : g ∈ t.guards) : g.token ∈ t.tokens := by
  unfold guards at hg
  unfold tokens
  split at hg
  · exact List.mem_append_left _ (List.mem_map_of_mem hg)
  · exact List.mem_map_of_mem hg
  · cases hg

theorem guards_of_tokens {t : Task} (h : t.tokens = []) : t.guards = [] := by
  cases hg : t.guards with
  | nil => rfl
  | cons g rest =>
      have hmem := token_mem_tokens (t := t) (g := g) (by rw [hg]; exact List.mem_cons_self)
      rw [h] at hmem
      cases hmem

theorem guards_of_fresh {t : Task} (h : t.stage = .fresh) : t.guards = [] := by
  unfold guards
  rw [h]

end Task

theorem ambient_of_call {t : Task} {c : Call} (hc : t.job = .call c) : t.ambient = c.ambient := by
  unfold Task.ambient
  rw [hc]

/-- The contexts that come from the outside: those with a name, and those that tasks came with. -/
def outer (x : Session) : List Context :=
  x.contexts.map (·.2) ++ (x.tasks.map (·.job)).flatMap Job.contexts

theorem mem_outer_of_named {x : Session} {name : String} {c : Context}
    (h : x.contexts.lookup name = some c) : c ∈ x.outer :=
  List.mem_append_left _ (List.mem_map.mpr ⟨_, mem_of_lookup h, rfl⟩)

theorem mem_outer_of_ambient {x : Session} {t : Task} (ht : t ∈ x.tasks) {c : Context}
    (h : t.ambient = some c) : c ∈ x.outer := by
  refine List.mem_append_right _ (List.mem_flatMap.mpr ⟨t.job, List.mem_map_of_mem ht, ?_⟩)
  unfold Task.ambient at h
  split at h
  next d hj =>
    rw [hj]
    show c ∈ d.ambient.toList
    rw [h]
    exact List.mem_singleton_self c
  next => cases h

/-- **THE TOKENS OF A REQUEST ARE ITS OWN.** -/
structure Rooted (x : Session) : Prop where
  /-- Tokens are numbered in the order in which they are made. -/
  outer : ∀ c ∈ x.outer, ∀ i ∈ c.token.lineage, i < x.scene.tokens.fresh
  own : ∀ t ∈ x.tasks, ∀ g ∈ t.guards, g.token.id < x.scene.tokens.fresh
  cut : ∀ i ∈ x.scene.tokens.cancelled, i < x.scene.tokens.fresh
  /-- No context from the outside stands below a guard. -/
  apart : ∀ t ∈ x.tasks, ∀ g ∈ t.guards, ∀ c ∈ x.outer, g.token.id ∉ c.token.lineage
  /-- No two requests have a token in common. -/
  disjoint : ∀ (j k : Nat) (t u : Task), x.tasks[j]? = some t → x.tasks[k]? = some u → j ≠ k →
    ∀ g ∈ t.guards, ∀ g' ∈ u.guards, g.token.id ≠ g'.token.id
  /-- A request's tokens stand below those of its guards and below the context it came with. -/
  lineage : ∀ t ∈ x.tasks, ∀ τ ∈ t.tokens, ∀ i ∈ τ.lineage,
    i ∈ t.guards.map (·.token.id) ∨ i ∈ lineageOf t.ambient
  /-- While a request goes on, no token of its guards is cancelled. -/
  whole : ∀ t ∈ x.tasks, ∀ g ∈ t.guards, g.token.id ∉ x.scene.tokens.cancelled

/-! ## §2. What a poll does to the tokens. -/

/-- **WHAT BECOMES OF A TASK `t` AND THE TOKENS `ts`.** -/
inductive Growth (t : Task) (ts : Tokens) (u : Task) : Tokens → Prop where
  /-- No token is made or cancelled. -/
  | on (h : u.tokens = [] ∨ (u.guards = t.guards ∧ ∀ τ ∈ u.tokens, τ ∈ t.tokens)) :
      Growth t ts u ts
  /-- A guard fires. -/
  | cut {g : Guard} (hg : g ∈ t.guards) (h : u.tokens = []) : Growth t ts u (ts.cancel g.token)
  /-- The guards are reached. -/
  | sprouted {a : Task.Armed} (ha : Sprouted t.ambient ts a)
      (h : u.tokens = [] ∨ (a.fired = false ∧ u.guards = a.guards
        ∧ ∀ τ ∈ u.tokens, τ ∈ a.guards.map (·.token) ∨ ∃ d, a.context = some d ∧ d.token = τ)) :
      Growth t ts u a.tokens

/-- What a request that asked has within its guards after the verdict. -/
theorem tokens_of_asks {t u : Task} {c : Call} {s s0 : Scene} {guards : List Guard}
    {context : Option Context} {v : Verdict} (hc : t.job = .call c)
    (hask : Asks t c s guards context s0 v)
    (hu : u.tokens = [] ∨ (u.guards = guards ∧ ∀ τ ∈ u.tokens,
      τ ∈ guards.map (·.token) ∨ ∃ d, context = some d ∧ d.token = τ)) :
    Growth t s.tokens u s0.tokens := by
  cases hask with
  | @enters a g _ hf ha hn hg =>
      have hsprouted := sprouted_arm s.now c.timeouts c.ambient s.tokens
      rw [ha, ← ambient_of_call hc] at hsprouted
      exact .sprouted hsprouted (hu.imp_right fun ⟨hgs, hts⟩ => ⟨hn, hgs, hts⟩)
  | resumes hp hd hg =>
      refine .on (hu.imp_right fun ⟨hgs, hts⟩ => ⟨?_, fun τ hτ => ?_⟩)
      · unfold Task.guards
        rw [hp]
        exact hgs
      · unfold Task.tokens
        rw [hp]
        rcases hts τ hτ with hm | ⟨d, rfl, rfl⟩
        · exact List.mem_append_left _ hm
        · exact List.mem_append_right _ (List.mem_singleton_self _)

theorem tokens_keepTicket (s : Scene) (name : String) (key : Nat) :
    (s.keepTicket name key).tokens = s.tokens := by
  rcases Sound.keepTicket_eq s name key with he | ⟨old, -, he⟩
  · rw [he]
  · rw [he]
    rfl

theorem mem_of_dueGuard? {now : Duration} {guards : List Guard} {g : Guard}
    (h : Task.dueGuard? now guards = some g) : g ∈ guards :=
  List.mem_of_find?_eq_some h

/-- **WHAT A POLL OF A THROTTLED REQUEST DOES TO THE TOKENS.** -/
theorem growth_poll {t : Task} {c : Call} (hc : t.job = .call c) (hf : Fit t) (s : Scene) :
    Growth t s.tokens (t.poll s).1 (t.poll s).2.tokens := by
  have hturn := turn_poll hc s
  generalize t.poll s = out at hturn ⊢
  cases hturn with
  | idle => exact .on (.inr ⟨rfl, fun _ h => h⟩)
  | late hfire =>
      cases hfire with
      | atOnce hf' ha hy =>
          have hsprouted := sprouted_arm s.now c.timeouts c.ambient s.tokens
          rw [ha, ← ambient_of_call hc] at hsprouted
          exact .sprouted hsprouted (.inl rfl)
      | @parked guards context g hp hd =>
          have hg : g ∈ t.guards := by
            unfold Task.guards
            rw [hp]
            exact mem_of_dueGuard? hd
          obtain ⟨metrics, he⟩ :=
            exists_eq_abandon { s with tokens := s.tokens.cancel g.token } t.key
          rw [he]
          exact .cut hg rfl
      | @running guards todo g hp hd =>
          have hg : g ∈ t.guards := by
            unfold Task.guards
            rw [hp]
            exact mem_of_dueGuard? hd
          exact .cut hg rfl
  | @parks guards context s0 hask =>
      refine tokens_of_asks hc hask (.inr ⟨rfl, fun τ hτ => ?_⟩)
      rcases List.mem_append.mp hτ with hm | hm
      · exact .inl hm
      · cases context with
        | none => cases hm
        | some d => exact .inr ⟨d, rfl, (List.mem_singleton.mp hm).symm⟩
  | @refused guards context s0 reason hask =>
      show Growth t s.tokens t.finish s0.tokens
      exact tokens_of_asks hc hask (.inl rfl)
  | @keeps guards context s0 hask hr =>
      show Growth t s.tokens t.finish
        ((s0.record (·.recordAdmitted)).keepTicket t.name t.key).tokens
      rw [tokens_keepTicket]
      show Growth t s.tokens t.finish s0.tokens
      exact tokens_of_asks hc hask (.inl rfl)
  | @acts guards todo s0 hact =>
      have hpro := progress_proceed t c guards s0 (hact.quiet hf hc)
      generalize t.proceed c guards todo s0 = out at hpro ⊢
      -- whether it begins or goes on, it acts within guards that are accounted for
      have hbegins : ∀ u : Task, (u.tokens = [] ∨ (u.guards = guards
          ∧ ∀ τ ∈ u.tokens, τ ∈ guards.map (·.token))) → Growth t s.tokens u s0.tokens := by
        intro u hu
        cases hact with
        | @begins _ s1 hask =>
            show Growth t s.tokens u s1.tokens
            exact tokens_of_asks hc hask
              (hu.imp_right fun ⟨hgs, hts⟩ => ⟨hgs, fun τ hτ => .inl (hts τ hτ)⟩)
        | goesOn hp =>
            refine .on (hu.imp_right fun ⟨hgs, hts⟩ => ⟨?_, fun τ hτ => ?_⟩)
            · unfold Task.guards
              rw [hp]
              exact hgs
            · unfold Task.tokens
              rw [hp]
              exact hts τ hτ
      cases hpro with
      | suspended => exact hbegins _ (.inr ⟨rfl, fun _ h => h⟩)
      | ended => exact hbegins _ (.inl rfl)

theorem tokens_of_aside {t : Task} (hf : Fit t) (hj : ∀ c, t.job ≠ .call c) : t.tokens = [] := by
  unfold Task.tokens
  split
  next guards context hst =>
    obtain ⟨c, hc⟩ := hf.parked guards context hst
    exact absurd hc (hj c)
  next guards todo hst =>
    obtain ⟨-, c, hc, -⟩ := hf.running guards todo hst
    exact absurd hc (hj c)
  next => rfl

/-- A poll of any task. -/
theorem growth_task {t : Task} (hf : Fit t) (s : Scene) :
    Growth t s.tokens (t.poll s).1 (t.poll s).2.tokens := by
  rcases call_or_not t with ⟨c, hc⟩ | hj
  · exact growth_poll hc hf s
  · have haside := aside_poll hj s
    generalize t.poll s = out at haside ⊢
    cases haside with
    | still => exact .on (.inl (tokens_of_aside hf hj))
    | answers | sees | leaves | reports => exact .on (.inl rfl)

theorem growth_abort (t : Task) (s : Scene) :
    Growth t s.tokens (t.abort s).1 (t.abort s).2.tokens := by
  unfold Task.abort
  split
  · obtain ⟨metrics, he⟩ := exists_eq_abandon s t.key
    rw [he]
    exact .on (.inl rfl)
  · exact .on (.inl rfl)
  · exact .on (.inl rfl)

section Facts

variable {t u : Task} {ts ts' : Tokens}

theorem Growth.fresh_le (h : Growth t ts u ts') : ts.fresh ≤ ts'.fresh := by
  cases h with
  | on | cut => exact Nat.le_refl _
  | sprouted ha =>
      rw [ha.fresh]
      exact Nat.le_add_right _ _

theorem Sprouted.bounds {c : Option Context} {a : Task.Armed} (ha : Sprouted c ts a) {g : Guard}
    (hg : g ∈ a.guards) : ts.fresh ≤ g.token.id ∧ g.token.id < a.tokens.fresh := by
  have hmem : g.token.id ∈ a.guards.map (·.token.id) := List.mem_map.mpr ⟨g, hg, rfl⟩
  rw [ha.ids, List.mem_range'_1] at hmem
  rw [ha.fresh]
  exact hmem

/-- A guard of the task was one of it before, or its token is new. -/
theorem Growth.mem_guards (h : Growth t ts u ts') {g : Guard} (hg : g ∈ u.guards) :
    g ∈ t.guards ∨ (ts.fresh ≤ g.token.id ∧ g.token.id < ts'.fresh) := by
  have hnone : u.tokens ≠ [] := by
    intro hnil
    rw [Task.guards_of_tokens hnil] at hg
    cases hg
  cases h with
  | on h =>
      obtain ⟨hgs, -⟩ := h.resolve_left hnone
      exact .inl (hgs ▸ hg)
  | cut _ h => exact absurd h hnone
  | sprouted ha h =>
      obtain ⟨-, hgs, -⟩ := h.resolve_left hnone
      exact .inr (ha.bounds (hgs ▸ hg))

/-- What is cancelled anew is a guard of the task, and then the task has none any more. -/
theorem Growth.of_cancelled (h : Growth t ts u ts') {i : Nat} (hi : i ∈ ts'.cancelled) :
    i ∈ ts.cancelled ∨ (u.guards = []
      ∧ ((∃ g ∈ t.guards, g.token.id = i) ∨ (ts.fresh ≤ i ∧ i < ts'.fresh))) := by
  cases h with
  | on => exact .inl hi
  | @cut g hg h =>
      rcases List.mem_cons.mp hi with rfl | hi
      · exact .inr ⟨Task.guards_of_tokens h, .inl ⟨g, hg, rfl⟩⟩
      · exact .inl hi
  | @sprouted a ha h =>
      cases hf : a.fired with
      | false =>
          rw [ha.untouched hf] at hi
          exact .inl hi
      | true =>
          -- a guard that fires at once leaves the task with nothing
          obtain ⟨g, hg, hcut⟩ := ha.cut hf
          rw [hcut] at hi
          rcases List.mem_cons.mp hi with rfl | hi
          · have hnil : u.tokens = [] := by
              rcases h with h | ⟨hn, -⟩
              · exact h
              · rw [hf] at hn
                cases hn
            exact .inr ⟨Task.guards_of_tokens hnil, .inr (ha.bounds hg)⟩
          · exact .inl hi

/-- What is cancelled stays so. -/
theorem Growth.cancelled_subset (h : Growth t ts u ts') : ts.cancelled ⊆ ts'.cancelled := by
  cases h with
  | on => exact List.Subset.refl _
  | cut => exact List.subset_cons_self _ _
  | @sprouted a ha =>
      cases hf : a.fired with
      | false =>
          rw [ha.untouched hf]
          exact List.Subset.refl _
      | true =>
          obtain ⟨g, -, hcut⟩ := ha.cut hf
          rw [hcut]
          exact List.subset_cons_self _ _

/-- The tokens of the task stand where they should. -/
theorem Growth.lineage (h : Growth t ts u ts')
    (ht : ∀ τ ∈ t.tokens, ∀ i ∈ τ.lineage,
      i ∈ t.guards.map (·.token.id) ∨ i ∈ lineageOf t.ambient) :
    ∀ τ ∈ u.tokens, ∀ i ∈ τ.lineage,
      i ∈ u.guards.map (·.token.id) ∨ i ∈ lineageOf t.ambient := by
  intro τ hτ i hi
  have hnone : u.tokens ≠ [] := by
    intro hnil
    rw [hnil] at hτ
    cases hτ
  cases h with
  | on h =>
      obtain ⟨hgs, hts⟩ := h.resolve_left hnone
      rw [hgs]
      exact ht τ (hts τ hτ) i hi
  | cut _ h => exact absurd h hnone
  | sprouted ha h =>
      obtain ⟨-, hgs, hts⟩ := h.resolve_left hnone
      rw [hgs]
      -- the context within has the token of a guard, or it is the one around all of them
      have hguard : ∀ g ∈ _, i ∈ Token.lineage (Guard.token g) → _ :=
        fun g hg hm => ha.lineage g hg i hm
      rcases hts τ hτ with hm | ⟨d, hd, rfl⟩
      · obtain ⟨g, hg, rfl⟩ := List.mem_map.mp hm
        exact hguard g hg hi
      · rcases ha.context with hc | ⟨g, hg, e, he, htok⟩
        · rw [hc] at hd
          rw [hd]
          exact .inr hi
        · rw [hd] at he
          cases he
          rw [htok] at hi
          exact hguard g hg hi

end Facts

/-! ## §3. The tokens of a request stay its own. -/

namespace Rooted

variable {x : Session}

/-- Whatever a request's contexts stand under was made before. -/
theorem lt_fresh (h : x.Rooted) {t : Task} (ht : t ∈ x.tasks) {τ : Token} (hτ : τ ∈ t.tokens)
    {i : Nat} (hi : i ∈ τ.lineage) : i < x.scene.tokens.fresh := by
  rcases h.lineage t ht τ hτ i hi with hm | hm
  · obtain ⟨g, hg, rfl⟩ := List.mem_map.mp hm
    exact h.own t ht g hg
  · cases ha : t.ambient with
    | none =>
        rw [ha] at hm
        cases hm
    | some c =>
        rw [ha] at hm
        exact h.outer c (mem_outer_of_ambient ht ha) i hm

/-- No context of a request stands below a guard of another request. -/
theorem notMem_lineage (h : x.Rooted) {j k : Nat} {t u : Task} (hj : x.tasks[j]? = some t)
    (hk : x.tasks[k]? = some u) (hne : j ≠ k) {g : Guard} (hg : g ∈ t.guards) {τ : Token}
    (hτ : τ ∈ u.tokens) : g.token.id ∉ τ.lineage := by
  intro hm
  have ht := List.mem_of_getElem? hj
  have hu := List.mem_of_getElem? hk
  rcases h.lineage u hu τ hτ _ hm with hm | hm
  · obtain ⟨g', hg', he⟩ := List.mem_map.mp hm
    exact h.disjoint j k t u hj hk hne g hg g' hg' he.symm
  · cases ha : u.ambient with
    | none =>
        rw [ha] at hm
        cases hm
    | some c =>
        rw [ha] at hm
        exact h.apart t ht g hg c (mem_outer_of_ambient hu ha) hm

/-- What is cancelled before and after a poll is the same for every lineage that has nothing to do
with the task. -/
theorem isCancelled_growth {t u : Task} {ts ts' : Tokens} (hgr : Growth t ts u ts') {τ : Token}
    (hfresh : ∀ i ∈ τ.lineage, i < ts.fresh) (hapart : ∀ g ∈ t.guards, g.token.id ∉ τ.lineage) :
    τ.isCancelled ts' = τ.isCancelled ts := by
  have hcons : ∀ n : Nat, n ∉ τ.lineage → ∀ ts'' : Tokens, ts''.cancelled = n :: ts.cancelled →
      τ.isCancelled ts'' = τ.isCancelled ts := by
    intro n hn ts'' he
    have hcontains : ∀ i ∈ τ.lineage, ts''.cancelled.contains i = ts.cancelled.contains i := by
      intro i hi
      have hne : i ≠ n := fun hin => hn (hin ▸ hi)
      rw [he]
      simp [hne]
    unfold Token.isCancelled
    rw [Bool.eq_iff_iff, List.any_eq_true, List.any_eq_true]
    refine exists_congr fun i => and_congr_right fun hi => ?_
    rw [hcontains i hi]
  cases hgr with
  | on => rfl
  | cut hg => exact hcons _ (hapart _ hg) _ rfl
  | @sprouted a ha =>
      cases hf : a.fired with
      | false =>
          unfold Token.isCancelled
          rw [ha.untouched hf]
      | true =>
          obtain ⟨g, hg, hcut⟩ := ha.cut hf
          refine hcons g.token.id (fun hm => ?_) _ hcut
          -- the guard's token is newer than any in the lineage
          have hlt := hfresh _ hm
          have hnew : g.token.id ∈ a.guards.map (·.token.id) :=
            List.mem_map.mpr ⟨g, hg, rfl⟩
          rw [ha.ids, List.mem_range'_1] at hnew
          omega

/-- A new token is newer than those of all other tasks. -/
theorem disjoint_growth (h : x.Rooted) {k : Nat} {t u : Task} (hk : x.tasks[k]? = some t)
    {ts : Tokens} (hgr : Growth t x.scene.tokens u ts) {j : Nat} {v : Task} (hne : j ≠ k)
    (hj : x.tasks[j]? = some v) : ∀ g ∈ v.guards, ∀ g' ∈ u.guards, g.token.id ≠ g'.token.id := by
  intro g hg g' hg' he
  rcases hgr.mem_guards hg' with hold | ⟨hnew, -⟩
  · exact h.disjoint j k v t hj hk hne g hg g' hold he
  · have hlt := h.own v (List.mem_of_getElem? hj) g hg
    omega

/-- A task whose guards remain has had none of them cancelled, -/
theorem whole_growth_self (h : x.Rooted) {t u : Task} (ht : t ∈ x.tasks) {ts : Tokens}
    (hgr : Growth t x.scene.tokens u ts) : ∀ g ∈ u.guards, g.token.id ∉ ts.cancelled := by
  intro g hg hm
  rcases hgr.of_cancelled hm with hold | ⟨hnil, -⟩
  · rcases hgr.mem_guards hg with hmem | ⟨hnew, -⟩
    · exact h.whole t ht g hmem hold
    · exact absurd (h.cut _ hold) (Nat.not_lt_of_le hnew)
  · rw [hnil] at hg
    cases hg

/-- and no guard of another task is cancelled with them. -/
theorem whole_growth_other (h : x.Rooted) {k : Nat} {t u : Task} (hk : x.tasks[k]? = some t)
    {ts : Tokens} (hgr : Growth t x.scene.tokens u ts) {j : Nat} {v : Task} (hne : j ≠ k)
    (hj : x.tasks[j]? = some v) : ∀ g ∈ v.guards, g.token.id ∉ ts.cancelled := by
  intro g hg hm
  have hv := List.mem_of_getElem? hj
  rcases hgr.of_cancelled hm with hold | ⟨-, ⟨g', hg', he⟩ | ⟨hnew, -⟩⟩
  · exact h.whole v hv g hg hold
  · exact h.disjoint k j t v hk hj (Ne.symm hne) g' hg' g hg he
  · exact absurd (h.own v hv g hg) (Nat.not_lt_of_le hnew)

/-- A task that has changed, and its tokens with it. -/
theorem growth (h : x.Rooted) {k : Nat} {t u : Task} (hk : x.tasks[k]? = some t)
    (hj : u.job = t.job) {s : Scene} (hgr : Growth t x.scene.tokens u s.tokens) :
    Rooted { x with tasks := x.tasks.set k u, scene := s } := by
  have ht := List.mem_of_getElem? hk
  have hlt : k < x.tasks.length := (List.getElem?_eq_some_iff.mp hk).1
  have hself : (x.tasks.set k u)[k]? = some u := List.getElem?_set_self hlt
  have hother : ∀ {j v}, j ≠ k → (x.tasks.set k u)[j]? = some v → x.tasks[j]? = some v :=
    fun hne hv => (List.getElem?_set_ne (Ne.symm hne)).symm.trans hv
  have hjobs : (x.tasks.set k u).map (·.job) = x.tasks.map (·.job) := by
    refine List.ext_getElem? fun j => ?_
    rw [List.getElem?_map, List.getElem?_map]
    by_cases he : j = k
    · rw [he, hself, hk, Option.map_some, Option.map_some, hj]
    · rw [List.getElem?_set_ne (Ne.symm he)]
  have houter : Session.outer { x with tasks := x.tasks.set k u, scene := s } = x.outer := by
    unfold Session.outer
    rw [show ((x.tasks.set k u).map (·.job)) = _ from hjobs]
  have hambient : u.ambient = t.ambient := by
    unfold Task.ambient
    rw [hj]
  have hfresh := hgr.fresh_le
  constructor
  case outer =>
    rw [houter]
    exact fun c hc i hi => Nat.lt_of_lt_of_le (h.outer c hc i hi) hfresh
  case own =>
    intro v hv g hg
    rcases mem_set_cases hv with rfl | ⟨j, -, hjv⟩
    · rcases hgr.mem_guards hg with hold | ⟨-, hnew⟩
      · exact Nat.lt_of_lt_of_le (h.own t ht g hold) hfresh
      · exact hnew
    · exact Nat.lt_of_lt_of_le (h.own v (List.mem_of_getElem? hjv) g hg) hfresh
  case cut =>
    intro i hi
    rcases hgr.of_cancelled hi with hold | ⟨-, ⟨g, hg, rfl⟩ | ⟨-, hnew⟩⟩
    · exact Nat.lt_of_lt_of_le (h.cut i hold) hfresh
    · exact Nat.lt_of_lt_of_le (h.own t ht g hg) hfresh
    · exact hnew
  case apart =>
    rw [houter]
    intro v hv g hg c hc hm
    rcases mem_set_cases hv with rfl | ⟨j, -, hjv⟩
    · rcases hgr.mem_guards hg with hold | ⟨hnew, -⟩
      · exact h.apart t ht g hold c hc hm
      · exact absurd (h.outer c hc _ hm) (Nat.not_lt_of_le hnew)
    · exact h.apart v (List.mem_of_getElem? hjv) g hg c hc hm
  case disjoint =>
    -- one of the two may be the task that has changed
    intro i j v w hi hj' hne g hg g' hg'
    have hi : (x.tasks.set k u)[i]? = some v := hi
    have hj' : (x.tasks.set k u)[j]? = some w := hj'
    by_cases hik : i = k
    · have hjk : j ≠ k := fun hjk => hne (hik.trans hjk.symm)
      rw [hik, hself] at hi
      cases hi
      exact (h.disjoint_growth hk hgr hjk (hother hjk hj') g' hg' g hg).symm
    · by_cases hjk : j = k
      · rw [hjk, hself] at hj'
        cases hj'
        exact h.disjoint_growth hk hgr hik (hother hik hi) g hg g' hg'
      · exact h.disjoint i j v w (hother hik hi) (hother hjk hj') hne g hg g' hg'
  case lineage =>
    intro v hv
    rcases mem_set_cases hv with rfl | ⟨j, -, hjv⟩
    · rw [hambient]
      exact hgr.lineage (h.lineage t ht)
    · exact h.lineage v (List.mem_of_getElem? hjv)
  case whole =>
    intro v hv
    rcases mem_set_cases hv with rfl | ⟨j, hne, hjv⟩
    · exact h.whole_growth_self ht hgr
    · exact h.whole_growth_other hk hgr hne hjv

/-- Tokens, tasks and contexts are the same. -/
theorem congr (h : x.Rooted) {y : Session} (ht : y.tasks = x.tasks)
    (hc : y.contexts = x.contexts) (htok : y.scene.tokens = x.scene.tokens) : y.Rooted := by
  have houter : y.outer = x.outer := by
    unfold Session.outer
    rw [ht, hc]
  constructor
  case outer =>
    rw [houter, htok]
    exact h.outer
  case own =>
    rw [ht, htok]
    exact h.own
  case cut => exact htok ▸ h.cut
  case apart =>
    rw [ht, houter]
    exact h.apart
  case disjoint => exact ht ▸ h.disjoint
  case lineage => exact ht ▸ h.lineage
  case whole =>
    rw [ht, htok]
    exact h.whole

/-- A task comes, with a context that has a name. -/
theorem addTask (h : x.Rooted) (name : String) {job : Job} (hj : Admissible x job) :
    (x.addTask name job).Rooted := by
  have houter : ∀ c ∈ (x.addTask name job).outer, c ∈ x.outer := by
    intro c hc
    rcases List.mem_append.mp hc with hc | hc
    · exact List.mem_append_left _ hc
    · obtain ⟨j, hjm, hc⟩ := List.mem_flatMap.mp hc
      obtain ⟨t, ht, rfl⟩ := List.mem_map.mp hjm
      rcases List.mem_append.mp ht with ht | ht
      · exact List.mem_append_right _ (List.mem_flatMap.mpr ⟨_, List.mem_map_of_mem ht, hc⟩)
      · rw [List.mem_singleton.mp ht] at hc
        exact List.mem_append_left _ (hj.contexts c hc)
  -- the newcomer has no guards yet
  have hcase : ∀ t ∈ (x.addTask name job).tasks, t ∈ x.tasks ∨ t.stage = .fresh := by
    intro t ht
    rcases List.mem_append.mp ht with ht | ht
    · exact .inl ht
    · rw [List.mem_singleton.mp ht]
      exact .inr rfl
  have hnone : ∀ t : Task, t.stage = .fresh → ∀ g, g ∉ t.guards := by
    intro t ht g hg
    rw [Task.guards_of_fresh ht] at hg
    cases hg
  constructor
  case outer => exact fun c hc => h.outer c (houter c hc)
  case own =>
    intro t ht g hg
    rcases hcase t ht with ht | ht
    · exact h.own t ht g hg
    · exact absurd hg (hnone t ht g)
  case cut => exact h.cut
  case apart =>
    intro t ht g hg c hc
    rcases hcase t ht with ht | ht
    · exact h.apart t ht g hg c (houter c hc)
    · exact absurd hg (hnone t ht g)
  case disjoint =>
    -- whoever has a guard was there before
    have hold : ∀ {j : Nat} {t : Task} {g : Guard},
        (x.tasks ++ [⟨x.tasks.length, name, job, .fresh⟩])[j]? = some t →
        g ∈ t.guards → x.tasks[j]? = some t := by
      intro j t g hj hg
      by_cases hlt : j < x.tasks.length
      · rwa [List.getElem?_append_left hlt] at hj
      · rw [List.getElem?_append_right (by omega)] at hj
        have ht := List.mem_singleton.mp (List.mem_of_getElem? hj)
        rw [ht] at hg
        cases hg
    intro j k t u hj' hk' hne g hg g' hg'
    exact h.disjoint j k t u (hold hj' hg) (hold hk' hg') hne g hg g' hg'
  case lineage =>
    intro t ht τ hτ
    rcases hcase t ht with ht | ht
    · exact h.lineage t ht τ hτ
    · unfold Task.tokens at hτ
      rw [ht] at hτ
      cases hτ
  case whole =>
    intro t ht g hg
    rcases hcase t ht with ht | ht
    · exact h.whole t ht g hg
    · exact absurd hg (hnone t ht g)

/-- A token from outside is cancelled. -/
theorem cancel (h : x.Rooted) {c : Context} (hc : c ∈ x.outer) :
    Rooted { x with scene := { x.scene with tokens := x.scene.tokens.cancel c.token } } := by
  refine ⟨h.outer, h.own, ?_, h.apart, h.disjoint, h.lineage, ?_⟩
  · intro i hi
    rcases List.mem_cons.mp hi with rfl | hi
    · exact h.outer c hc _ List.mem_cons_self
    · exact h.cut i hi
  · intro t ht g hg hm
    rcases List.mem_cons.mp hm with he | hm
    · exact h.apart t ht g hg c hc (he ▸ List.mem_cons_self)
    · exact h.whole t ht g hg hm

end Rooted

/-- What leaves the token alone in one step does so in all. -/
theorem token_foldl {f : Context → Limit → Context} (hf : ∀ c l, (f c l).token = c.token)
    (limits : List Limit) (c : Context) : (limits.foldl f c).token = c.token := by
  induction limits generalizing c with
  | nil => rfl
  | cons limit rest ih => rw [List.foldl_cons, ih, hf]

/-- The context that a new one starts from. -/
def originContext (x : Session) : Origin → Context × Tokens
  | .root => Context.root x.scene.tokens
  | .childOf p =>
      match x.contexts.lookup p with
      | some parent => parent.child x.scene.tokens
      | none => Context.root x.scene.tokens
  | .cloneOf p =>
      match x.contexts.lookup p with
      | some c => (c, x.scene.tokens)
      | none => Context.root x.scene.tokens

/-- It has a new token, below one from outside at most, or it has one from outside. -/
theorem origin_cases (x : Session) (origin : Origin) :
    (x.originContext origin).2.cancelled = x.scene.tokens.cancelled
      ∧ x.scene.tokens.fresh ≤ (x.originContext origin).2.fresh
      ∧ ∀ i ∈ (x.originContext origin).1.token.lineage,
        (x.scene.tokens.fresh ≤ i ∧ i < (x.originContext origin).2.fresh)
          ∨ ∃ d ∈ x.outer, i ∈ d.token.lineage := by
  -- a name that no context has stands for a new one
  have hroot : ∀ i ∈ (Context.root x.scene.tokens).1.token.lineage,
      (x.scene.tokens.fresh ≤ i ∧ i < (Context.root x.scene.tokens).2.fresh)
        ∨ ∃ d ∈ x.outer, i ∈ d.token.lineage := by
    intro i hi
    have hi : i = x.scene.tokens.fresh := List.mem_singleton.mp hi
    rw [hi]
    exact .inl ⟨Nat.le_refl _, Nat.lt_succ_self _⟩
  cases origin with
  | root => exact ⟨rfl, Nat.le_succ _, hroot⟩
  | childOf p =>
      cases hp : x.contexts.lookup p with
      | none =>
          rw [show x.originContext (.childOf p) = Context.root x.scene.tokens from by
            simp only [originContext, hp]]
          exact ⟨rfl, Nat.le_succ _, hroot⟩
      | some parent =>
          rw [show x.originContext (.childOf p) = parent.child x.scene.tokens from by
            simp only [originContext, hp]]
          refine ⟨rfl, Nat.le_succ _, fun i hi => ?_⟩
          rcases List.mem_cons.mp hi with rfl | hi
          · exact .inl ⟨Nat.le_refl _, Nat.lt_succ_self _⟩
          · exact .inr ⟨parent, mem_outer_of_named hp, hi⟩
  | cloneOf p =>
      cases hp : x.contexts.lookup p with
      | none =>
          rw [show x.originContext (.cloneOf p) = Context.root x.scene.tokens from by
            simp only [originContext, hp]]
          exact ⟨rfl, Nat.le_succ _, hroot⟩
      | some d =>
          rw [show x.originContext (.cloneOf p) = (d, x.scene.tokens) from by
            simp only [originContext, hp]]
          exact ⟨rfl, Nat.le_refl _, fun i hi => .inr ⟨d, mem_outer_of_named hp, hi⟩⟩

/-- **A CONTEXT THAT IS MADE** has the token that it started with, or that of another. -/
theorem exists_makeContext (x : Session) (name : String) (origin : Origin)
    (tokenOf requestId : Option String) (limits : List Limit) : ∃ c : Context,
      x.makeContext name origin tokenOf requestId limits
        = { x with
            contexts := Scene.assign name c x.contexts
            scene := { x.scene with tokens := (x.originContext origin).2 } }
      ∧ (c.token = (x.originContext origin).1.token
        ∨ ∃ other, x.context? tokenOf = some other ∧ c.token = other.token) := by
  refine ⟨_, rfl, ?_⟩
  rw [token_foldl fun c l => by cases l <;> rfl]
  cases requestId with
  | none =>
      cases hother : x.context? tokenOf with
      | none => exact .inl rfl
      | some other => exact .inr ⟨other, rfl, rfl⟩
  | some id =>
      cases hother : x.context? tokenOf with
      | none => exact .inl rfl
      | some other => exact .inr ⟨other, rfl, rfl⟩

namespace Rooted

variable {x : Session}

/-- A context is made and named. -/
theorem makeContext (h : x.Rooted) (name : String) (origin : Origin)
    (tokenOf requestId : Option String) (limits : List Limit) :
    (x.makeContext name origin tokenOf requestId limits).Rooted := by
  obtain ⟨c, hmade, htoken⟩ := exists_makeContext x name origin tokenOf requestId limits
  obtain ⟨hcancelled, hle, horigin⟩ := origin_cases x origin
  have hlineage : ∀ i ∈ c.token.lineage,
      (x.scene.tokens.fresh ≤ i ∧ i < (x.originContext origin).2.fresh)
        ∨ ∃ d ∈ x.outer, i ∈ d.token.lineage := by
    intro i hi
    rcases htoken with he | ⟨other, hother, he⟩
    · exact horigin i (he ▸ hi)
    · exact .inr ⟨other, List.mem_append_left _ (mem_contexts_of_context? hother), he ▸ hi⟩
  rw [hmade]
  generalize (x.originContext origin).2 = tokens at hcancelled hle hlineage ⊢
  have houter : ∀ d ∈ Session.outer { x with contexts := Scene.assign name c x.contexts
                                             scene := { x.scene with tokens } },
      d ∈ x.outer ∨ d = c := by
    intro d hd
    rcases List.mem_append.mp hd with hd | hd
    · obtain ⟨p, hp, rfl⟩ := List.mem_map.mp hd
      rcases Sound.mem_assign hp with rfl | hp
      · exact .inr rfl
      · exact .inl (List.mem_append_left _ (List.mem_map_of_mem hp))
    · exact .inl (List.mem_append_right _ hd)
  constructor
  case outer =>
    intro d hd i hi
    rcases houter d hd with hd | rfl
    · exact Nat.lt_of_lt_of_le (h.outer d hd i hi) hle
    · rcases hlineage i hi with ⟨-, hlt⟩ | ⟨e, he, hi⟩
      · exact hlt
      · exact Nat.lt_of_lt_of_le (h.outer e he i hi) hle
  case own => exact fun t ht g hg => Nat.lt_of_lt_of_le (h.own t ht g hg) hle
  case cut =>
    intro i hi
    have hi : i ∈ tokens.cancelled := hi
    rw [hcancelled] at hi
    exact Nat.lt_of_lt_of_le (h.cut i hi) hle
  case apart =>
    -- a new token is newer than those of all guards
    intro t ht g hg d hd hm
    rcases houter d hd with hd | rfl
    · exact h.apart t ht g hg d hd hm
    · rcases hlineage _ hm with ⟨hge, -⟩ | ⟨e, he, hm⟩
      · exact absurd (h.own t ht g hg) (Nat.not_lt_of_le hge)
      · exact h.apart t ht g hg e he hm
  case disjoint => exact h.disjoint
  case lineage => exact h.lineage
  case whole =>
    intro t ht g hg hm
    have hm : g.token.id ∈ tokens.cancelled := hm
    rw [hcancelled] at hm
    exact h.whole t ht g hg hm

/-! ## §4. Moves and runs. -/

theorem order (h : x.Rooted) {y : Session} (ho : Order x y) : y.Rooted := by
  cases ho with
  | idle => exact h
  | @dropped k t hk =>
      rw [onTask_of_some hk]
      exact h.growth hk (by unfold Task.abort; split <;> rfl) (growth_abort t x.scene)
  | came name hj => exact h.addTask name hj
  | contextMade name origin tokenOf requestId limits =>
      exact h.makeContext name origin tokenOf requestId limits
  | cancelled hl => exact h.cancel (mem_outer_of_named hl)
  | permitted => exact h.congr rfl rfl rfl
  | released => exact h.congr rfl rfl rfl
  | discarded => exact h.congr rfl rfl rfl

/-- **ONE MOVE** leaves the tokens of every request its own. -/
theorem move (h : x.Rooted) (hs : x.Sound) (m : Move) : (x.move m).Rooted := by
  have hc := change x m
  have honward := hs.onward m
  generalize x.move m = y at hc honward ⊢
  cases hc with
  | @polled k t hk =>
      obtain ⟨u, hu, hheir⟩ := honward.heir k t hk
      rw [getElem?_onTask_self hk] at hu
      rw [onTask_of_some hk]
      refine h.growth hk ?_ (growth_task (hs.fit t (List.mem_of_getElem? hk)) x.scene)
      rw [Option.some.inj hu]
      exact hheir.job
  | ordered ho => exact h.order ho
  | ticked => exact h.congr rfl rfl rfl

theorem run (h : x.Rooted) (hs : x.Sound) (ms : List Move) : (x.run ms).Rooted := by
  induction ms generalizing x with
  | nil => exact h
  | cons m ms ih => exact ih (h.move hs m) (hs.move m)

/-- **A POLL OF ONE TASK CANCELS NOTHING OF OTHERS**: no context from outside, and no context that
another request has within its guards. -/
theorem isCancelled_poll (h : x.Rooted) (hs : x.Sound) {k : Nat} {t : Task}
    (hk : x.tasks[k]? = some t) {τ : Token}
    (hτ : (∃ c ∈ x.outer, c.token = τ)
      ∨ ∃ j u, j ≠ k ∧ x.tasks[j]? = some u ∧ τ ∈ u.tokens) :
    τ.isCancelled (x.move (.poll k)).scene.tokens = τ.isCancelled x.scene.tokens := by
  have hgr := growth_task (hs.fit t (List.mem_of_getElem? hk)) x.scene
  have hscene : (x.move (.poll k)).scene = (t.poll x.scene).2 := by
    show (x.onTask k Task.poll).scene = _
    rw [onTask_of_some hk]
  rw [hscene]
  refine isCancelled_growth hgr ?_ ?_
  · intro i hi
    rcases hτ with ⟨c, hc, rfl⟩ | ⟨j, u, -, hj, hu⟩
    · exact h.outer c hc i hi
    · exact h.lt_fresh (List.mem_of_getElem? hj) hu hi
  · intro g hg
    rcases hτ with ⟨c, hc, rfl⟩ | ⟨j, u, hne, hj, hu⟩
    · exact h.apart t (List.mem_of_getElem? hk) g hg c hc
    · exact h.notMem_lineage hk hj (Ne.symm hne) hg hu

end Rooted

theorem Order.cancelled_subset {x y : Session} (h : Order x y) :
    x.scene.tokens.cancelled ⊆ y.scene.tokens.cancelled := by
  cases h with
  | @dropped k t hk =>
      rw [onTask_of_some hk]
      exact (growth_abort t x.scene).cancelled_subset
  | contextMade name origin tokenOf requestId limits =>
      obtain ⟨c, hmade, -⟩ := exists_makeContext x name origin tokenOf requestId limits
      rw [hmade]
      show _ ⊆ (x.originContext origin).2.cancelled
      rw [(origin_cases x origin).1]
      exact List.Subset.refl _
  | cancelled => exact List.subset_cons_self _ _
  | idle | came | permitted | released | discarded => exact List.Subset.refl _

/-- **NO CANCELLATION IS TAKEN BACK.** -/
theorem Sound.cancelled_subset_run {x : Session} (h : x.Sound) (ms : List Move) :
    x.scene.tokens.cancelled ⊆ (x.run ms).scene.tokens.cancelled := by
  induction ms generalizing x with
  | nil => exact List.Subset.refl _
  | cons m ms ih =>
      refine List.Subset.trans ?_ (ih (h.move m))
      have hc := change x m
      generalize x.move m = y at hc
      cases hc with
      | @polled k t hk =>
          rw [onTask_of_some hk]
          exact (growth_task (h.fit t (List.mem_of_getElem? hk)) x.scene).cancelled_subset
      | ordered ho => exact ho.cancelled_subset
      | ticked => exact List.Subset.refl _

theorem ofGate_rooted (g : Gate) (policy : Policy) (site : Site) (metrics : Option Metrics) :
    (ofGate g policy site metrics).Rooted := by
  have hempty : ∀ k : Nat, ([] : List Task)[k]? = none := fun k => List.getElem?_nil
  constructor
  case disjoint =>
    intro j k t u hj
    rw [show (ofGate g policy site metrics).tasks = [] from rfl, hempty] at hj
    cases hj
  all_goals
    intro a ha
    cases ha

end Admission.Session

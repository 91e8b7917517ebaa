/-
  Admission.Proofs.Session.Arming — contexts that descend from one another, and those of the guards.

  A context DESCENDS from another if it was made from it as a child, and given deadlines or a name on
  the way.  What ends a context ends all that descend from it.  Each deadline guard makes a child of
  the context around it, with a token of its own; `Sprouted` says which tokens the guards of a
  request get and what their lineages are.

  Main results:
    * `Context.Descends.isDone` — **the end of a context is the end of its descendants**;
    * `descends_arm` — the context within the guards descends from the one around them;
    * `deadlines_arm`, `fired_arm_iff` — the deadlines of the guards, and when one fires at once;
    * `sprouted_arm` — their tokens are new.
-/
import Mathlib.Data.List.Range
import Admission.Session.Task

namespace Admission

/-! ## §1. Descent. -/

namespace Context

/-- **`Descends p c`**: the context `c` was made from `p`. -/
inductive Descends (p : Context) : Context → Prop where
  | self : Descends p p
  | child {c : Context} (h : Descends p c) (ts : Tokens) : Descends p (c.child ts).1
  | limited {c : Context} (h : Descends p c) (t : Duration) : Descends p (c.withDeadline t)
  | named {c : Context} (h : Descends p c) (id : String) : Descends p (c.withRequestId id)

theorem isCancelled_child {c : Context} {ts : Tokens} (new : Tokens)
    (h : c.token.isCancelled ts = true) : (c.child new).1.token.isCancelled ts = true := by
  obtain ⟨i, hi, hc⟩ := List.any_eq_true.mp h
  exact List.any_eq_true.mpr ⟨i, List.mem_cons_of_mem _ hi, hc⟩

/-- A deadline only ever moves earlier. -/
theorem isPast_withDeadline {c : Context} {now : Duration} (t : Duration)
    (h : c.isPast now = true) : (c.withDeadline t).isPast now = true := by
  unfold isPast at h
  cases hd : c.deadline with
  | none =>
      rw [hd] at h
      cases h
  | some e =>
      rw [hd] at h
      have he : e.nanos ≤ now.nanos := of_decide_eq_true h
      have hmin := Duration.nanos_earlier e t
      unfold withDeadline isPast
      simp only [hd]
      exact decide_eq_true (show (e.earlier t).nanos ≤ now.nanos by omega)

/-- **THE END OF A CONTEXT IS THE END OF ITS DESCENDANTS.** -/
theorem Descends.isDone {p c : Context} (h : Descends p c) {ts : Tokens} {now : Duration}
    (hp : p.isDone ts now = true) : c.isDone ts now = true := by
  induction h with
  | self => exact hp
  | child _ new ih =>
      rcases Bool.or_eq_true_iff.mp ih with hc | hd
      · exact Bool.or_eq_true_iff.mpr (.inl (isCancelled_child new hc))
      · exact Bool.or_eq_true_iff.mpr (.inr hd)
  | limited _ t ih =>
      rcases Bool.or_eq_true_iff.mp ih with hc | hd
      · exact Bool.or_eq_true_iff.mpr (.inl hc)
      · exact Bool.or_eq_true_iff.mpr (.inr (isPast_withDeadline t hd))
  | named _ _ ih => exact ih

theorem Descends.trans {p c d : Context} (h : Descends p c) (h' : Descends c d) :
    Descends p d := by
  induction h' with
  | self => exact h
  | child _ ts ih => exact ih.child ts
  | limited _ t ih => exact ih.limited t
  | named _ id ih => exact ih.named id

/-- The tokens that an accompanying context stands under. -/
def lineageOf : Option Context → List Nat
  | some c => c.token.lineage
  | none => []

end Context

namespace Session

open Context (Descends lineageOf)

/-! ## §2. One guard. -/

/-- The context that a guard makes within `c`. -/
def guardContext (c : Option Context) (ts : Tokens) (deadline : Duration) : Context :=
  (match c with
    | some parent => (parent.child ts).1
    | none => (Context.root ts).1).withDeadline deadline

theorem token_guardContext (c : Option Context) (ts : Tokens) (deadline : Duration) :
    (guardContext c ts deadline).token = ⟨ts.fresh, lineageOf c⟩ := by
  cases c <;> rfl

theorem descends_guardContext (c : Context) (ts : Tokens) (deadline : Duration) :
    Descends c (guardContext (some c) ts deadline) :=
  (Descends.self.child ts).limited deadline

/-- The deadline within a guard is its own or an earlier one from around it. -/
theorem deadline_guardContext (c : Option Context) (ts : Tokens) (deadline : Duration) :
    (guardContext c ts deadline).deadline = some deadline
      ∨ ∃ d, c = some d ∧ (guardContext c ts deadline).deadline = d.deadline := by
  cases c with
  | none => exact .inl rfl
  | some d =>
      unfold guardContext Context.withDeadline Context.child
      simp only
      cases hd : d.deadline with
      | none => exact .inl rfl
      | some e =>
          simp only
          unfold Duration.earlier
          split
          · exact .inr ⟨d, rfl, hd.symm⟩
          · exact .inl rfl

/-- One guard after the other, from the outside to the inside. -/
theorem arm_cons (now d : Duration) (rest : List Duration) (c : Option Context) (ts : Tokens) :
    Task.arm now (d :: rest) c ts
      = if now + d ≤ now then
          ⟨[⟨now + d, (guardContext c ts (now + d)).token⟩], some (guardContext c ts (now + d)),
            Tokens.cancel { ts with fresh := ts.fresh + 1 } (guardContext c ts (now + d)).token,
            true⟩
        else
          let armed := Task.arm now rest (some (guardContext c ts (now + d)))
            { ts with fresh := ts.fresh + 1 }
          { armed with
            guards := ⟨now + d, (guardContext c ts (now + d)).token⟩ :: armed.guards } := by
  cases c <;> rfl

/-! ## §3. All guards of a request. -/

/-- The context within the guards descends from the one around them. -/
theorem descends_arm {now : Duration} {p : Context} (ds : List Duration) {c : Context}
    (h : Descends p c) (ts : Tokens) :
    ∃ d, (Task.arm now ds (some c) ts).context = some d ∧ Descends p d := by
  induction ds generalizing c ts with
  | nil => exact ⟨c, rfl, h⟩
  | cons d rest ih =>
      have hnext := h.trans (descends_guardContext c ts (now + d))
      rw [arm_cons]
      split
      · exact ⟨_, rfl, hnext⟩
      · exact ih hnext _

/-- **WHEN A GUARD FIRES AT ONCE**: it has no time at all. -/
theorem fired_arm_iff (now : Duration) (ds : List Duration) (c : Option Context) (ts : Tokens) :
    (Task.arm now ds c ts).fired = true ↔ ∃ d ∈ ds, now + d ≤ now := by
  induction ds generalizing c ts with
  | nil => exact ⟨nofun, nofun⟩
  | cons d rest ih =>
      rw [arm_cons]
      split
      next hd => exact ⟨fun _ => ⟨d, List.mem_cons_self, hd⟩, fun _ => rfl⟩
      next hd =>
        show (Task.arm now rest _ _).fired = true ↔ _
        rw [ih]
        constructor
        · rintro ⟨e, he, hle⟩
          exact ⟨e, List.mem_cons_of_mem _ he, hle⟩
        · rintro ⟨e, he, hle⟩
          rcases List.mem_cons.mp he with rfl | he
          · exact absurd hle hd
          · exact ⟨e, he, hle⟩

/-- The deadlines of guards that did not fire at once. -/
theorem deadlines_arm {now : Duration} (ds : List Duration) (c : Option Context) (ts : Tokens)
    (hn : (Task.arm now ds c ts).fired = false) :
    (Task.arm now ds c ts).guards.map (·.deadline) = ds.map (now + ·) := by
  induction ds generalizing c ts with
  | nil => rfl
  | cons d rest ih =>
      rw [arm_cons] at hn ⊢
      split at hn
      · cases hn
      next hd =>
        rw [if_neg hd]
        exact congrArg ((now + d) :: ·) (ih _ _ hn)

/-- **THE TOKENS OF THE GUARDS OF A REQUEST** that came with `c`. -/
structure Sprouted (c : Option Context) (ts : Tokens) (a : Task.Armed) : Prop where
  fresh : a.tokens.fresh = ts.fresh + a.guards.length
  /-- Each guard has a number that no token had before. -/
  ids : a.guards.map (·.token.id) = List.range' ts.fresh a.guards.length
  /-- Above its own token stand those of the guards around it, and those of `c`. -/
  lineage : ∀ g ∈ a.guards, ∀ i ∈ g.token.lineage,
    i ∈ a.guards.map (·.token.id) ∨ i ∈ lineageOf c
  /-- The context within has the token of a guard, or is `c` itself where there are none. -/
  context : a.context = c ∨ ∃ g ∈ a.guards, ∃ d, a.context = some d ∧ d.token = g.token
  /-- Its deadline is that of a guard, or that of `c`. -/
  deadline : ∀ d t, a.context = some d → d.deadline = some t →
    (∃ g ∈ a.guards, g.deadline = t) ∨ ∃ e, c = some e ∧ e.deadline = some t
  untouched : a.fired = false → a.tokens.cancelled = ts.cancelled
  cut : a.fired = true → ∃ g ∈ a.guards, a.tokens.cancelled = g.token.id :: ts.cancelled

theorem sprouted_arm (now : Duration) (ds : List Duration) (c : Option Context) (ts : Tokens) :
    Sprouted c ts (Task.arm now ds c ts) := by
  induction ds generalizing c ts with
  | nil =>
      exact ⟨rfl, rfl, nofun, .inl rfl, fun d t hd ht => .inr ⟨d, hd, ht⟩, fun _ => rfl, nofun⟩
  | cons d rest ih =>
      rw [arm_cons]
      have htoken := token_guardContext c ts (now + d)
      have hdeadline := deadline_guardContext c ts (now + d)
      generalize guardContext c ts (now + d) = inner at htoken hdeadline ⊢
      have hown : ∀ t, inner.deadline = some t →
          now + d = t ∨ ∃ e, c = some e ∧ e.deadline = some t := by
        intro t ht
        rcases hdeadline with hd | ⟨e, he, hd⟩
        · exact .inl (Option.some.inj (hd.symm.trans ht))
        · exact .inr ⟨e, he, hd.symm.trans ht⟩
      split
      · refine ⟨rfl, ?_, ?_, .inr ⟨_, List.mem_singleton_self _, inner, rfl, rfl⟩, ?_, nofun,
          fun _ => ⟨_, List.mem_singleton_self _, rfl⟩⟩
        · show [inner.token.id] = [ts.fresh]
          rw [htoken]
        · intro g hg i hi
          rw [List.mem_singleton.mp hg] at hi
          show i ∈ [inner.token.id] ∨ _
          rw [htoken] at hi ⊢
          exact (List.mem_cons.mp hi).imp_left fun he => List.mem_singleton.mpr he
        · intro e t he ht
          obtain rfl := Option.some.inj he
          rcases hown t ht with hd | hd
          · exact .inl ⟨_, List.mem_singleton_self _, hd⟩
          · exact .inr hd
      · have hrest := ih (some inner) { ts with fresh := ts.fresh + 1 }
        generalize Task.arm now rest (some inner) { ts with fresh := ts.fresh + 1 } = a
          at hrest ⊢
        -- the outermost guard comes first, and those within it are made from its context
        refine ⟨?_, ?_, ?_, ?_, ?_, hrest.untouched, ?_⟩
        · show a.tokens.fresh = ts.fresh + (a.guards.length + 1)
          rw [hrest.fresh]
          show ts.fresh + 1 + _ = _
          omega
        · show inner.token.id :: a.guards.map (·.token.id) = List.range' ts.fresh (a.guards.length + 1)
          rw [hrest.ids, htoken, List.range'_succ]
        · intro g hg i hi
          show i ∈ inner.token.id :: a.guards.map (·.token.id) ∨ _
          have hinner : ∀ i ∈ inner.token.lineage,
              i ∈ inner.token.id :: a.guards.map (·.token.id) ∨ i ∈ lineageOf c := by
            intro i hi
            rw [htoken] at hi ⊢
            rcases List.mem_cons.mp hi with rfl | hi
            · exact .inl List.mem_cons_self
            · exact .inr hi
          rcases List.mem_cons.mp hg with rfl | hg
          · exact hinner i hi
          · rcases hrest.lineage g hg i hi with hm | hm
            · exact .inl (List.mem_cons_of_mem _ hm)
            · exact hinner i hm
        · rcases hrest.context with hc | ⟨g, hg, e, he, ht⟩
          · exact .inr ⟨_, List.mem_cons_self, inner, hc, rfl⟩
          · exact .inr ⟨g, List.mem_cons_of_mem _ hg, e, he, ht⟩
        · intro e t he ht
          rcases hrest.deadline e t he ht with ⟨g, hg, hgt⟩ | ⟨e', he', ht'⟩
          · exact .inl ⟨g, List.mem_cons_of_mem _ hg, hgt⟩
          · obtain rfl := Option.some.inj he'
            rcases hown t ht' with hd | hd
            · exact .inl ⟨_, List.mem_cons_self, hd⟩
            · exact .inr hd
        · intro hf
          obtain ⟨g, hg, hcut⟩ := hrest.cut hf
          exact ⟨g, List.mem_cons_of_mem _ hg, hcut⟩

end Session

end Admission

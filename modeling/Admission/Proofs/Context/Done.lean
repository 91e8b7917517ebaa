/-
  Admission.Proofs.Context.Done — when a context has ended, and what its end reaches.

  A context has ended when its token was cancelled, with itself or with one that it descends from,
  or when the earliest of its deadlines has come.  Cancelling a context reaches those whose token is
  the same or descends from it.  These are its children, and neither its parent nor its siblings, as
  long as no token was REPLACED: a context that was given the token of another ends with that one.

  Main results:
    * `Grows.run` — what a forest holds stays as it is;
    * `contexts_lawful` — **when a context has ended, and what its end reaches**;
    * `siblings_sharing_a_token` — a context can end its sibling if it gave it its token.
-/
import Admission.Proofs.Context.Forest

namespace Admission

/-- **WAITING AND ASKING AGREE**: one who waits is woken exactly when the context has ended. -/
theorem Context.wakes_eq_isDone (c : Context) (ts : Tokens) (now : Duration) :
    c.wakes ts now = c.isDone ts now := by
  unfold wakes signals isDone isPast
  cases c.deadline with
  | none => simp [Signal.isReady]
  | some t => simp [Signal.isReady]

/-- The context that was changed into a new one with the same token. -/
def Making.kept? : Making → Option Nat
  | .clone k | .withTimeout k _ | .withDeadline k _ | .withRequestId k _ => some k
  | .new | .child _ | .withToken _ _ => none

namespace Forest

/-! ## §1. What a forest holds stays. -/

/-- The contexts are there, no cancelled token is forgotten, and no time is won back. -/
structure Grows (f f' : Forest) : Prop where
  contexts : ∀ j c, f.context? j = some c → f'.context? j = some c
  cancelled : f.tokens.cancelled ⊆ f'.tokens.cancelled
  now : f.now ≤ f'.now

section Growing

variable {f f' f'' : Forest}

theorem Grows.refl (f : Forest) : f.Grows f :=
  ⟨fun _ _ h => h, List.Subset.refl _, Nat.le_refl _⟩

theorem Grows.trans (h : f.Grows f') (h' : f'.Grows f'') : f.Grows f'' :=
  ⟨fun j c hc => h'.contexts j c (h.contexts j c hc), List.Subset.trans h.cancelled h'.cancelled,
    Nat.le_trans h.now h'.now⟩

theorem Sound.grows_step (hf : f.Sound) (s : Step) : f.Grows (f.step s) := by
  unfold Forest.step
  cases s with
  | make how =>
    simp only
    split
    next made h =>
      refine ⟨?_, ?_, Nat.le_refl _⟩
      · intro j c hc
        exact (context?_grow_of_lt how made (lt_of_context? hc)).trans hc
      · intro i hi
        rw [show (f.grow how made).tokens.cancelled = f.tokens.cancelled from (hf.birth h).cancelled]
        exact hi
    next => exact .refl f
  | cancel k =>
    simp only
    split
    next => exact ⟨fun _ _ hd => hd, List.subset_cons_self _ _, Nat.le_refl _⟩
    next => exact .refl f
  | advance ms => exact ⟨fun _ _ hc => hc, List.Subset.refl _, Nat.le_add_right _ _⟩

/-- **WHAT A FOREST HOLDS STAYS** as it is. -/
theorem Grows.run (hf : f.Sound) (steps : List Step) : f.Grows (f.run steps) := by
  induction steps generalizing f with
  | nil => exact .refl f
  | cons s rest ih => exact (hf.grows_step s).trans (ih (hf.step s))

theorem isCancelled_mono {ts ts' : Tokens} (h : ts.cancelled ⊆ ts'.cancelled) {t : Token}
    (hc : t.isCancelled ts = true) : t.isCancelled ts' = true := by
  obtain ⟨i, hi, hmem⟩ := List.any_eq_true.mp hc
  refine List.any_eq_true.mpr ⟨i, hi, ?_⟩
  simpa using h (by simpa using hmem)

theorem isPast_mono {c : Context} {now now' : Duration} (h : now ≤ now')
    (hc : c.isPast now = true) : c.isPast now' = true := by
  unfold Context.isPast at hc ⊢
  cases hd : c.deadline with
  | none =>
    rw [hd] at hc
    cases hc
  | some t =>
    rw [hd] at hc
    exact decide_eq_true (Nat.le_trans (of_decide_eq_true hc) h)

/-- A context that has ended does not begin again. -/
theorem Grows.isDone (h : f.Grows f') {c : Context} (hc : c.isDone f.tokens f.now = true) :
    c.isDone f'.tokens f'.now = true := by
  unfold Context.isDone at hc ⊢
  rw [Bool.or_eq_true] at hc ⊢
  exact hc.imp (isCancelled_mono h.cancelled) (isPast_mono h.now)

end Growing

/-! ## §2. The end of one context. -/

/-- **WHEN A CONTEXT HAS ENDED**, told by its history. -/
structure Lawful (f : Forest) (j : Nat) (c : Context) : Prop where
  /-- The deadline is the earliest of those that were set, in whatever order. -/
  deadline : f.Earliest j c.deadline
  /-- A context ends with its token, with one that this descends from, or with time. -/
  done : c.isDone f.tokens f.now = true ↔
    (∃ k ∈ f.cancels, ∃ d, f.context? k = some d ∧ f.Under c.token d.token)
      ∨ ∃ t, f.Sets j t ∧ t ≤ f.now
  /-- Waiting and asking agree. -/
  wakes : c.wakes f.tokens f.now = c.isDone f.tokens f.now
  /-- Nothing remains exactly from the deadline on. -/
  remaining : c.remaining? f.now = some .zero ↔ ∃ t, f.Sets j t ∧ t ≤ f.now
  /-- The end is final. -/
  lasting : ∀ later, (f.run later).context? j = some c
    ∧ (c.isDone f.tokens f.now = true → c.isDone (f.run later).tokens (f.run later).now = true)

theorem remaining?_eq_zero_iff (c : Context) (now : Duration) :
    c.remaining? now = some .zero ↔ c.isPast now = true := by
  unfold Context.remaining? Context.isPast
  cases c.deadline with
  | none => exact ⟨nofun, nofun⟩
  | some t =>
    show some (t - now) = some Duration.zero ↔ decide (t ≤ now) = true
    rw [Option.some.injEq, decide_eq_true_iff, Duration.le_def]
    constructor
    · intro h
      have hnanos : t.nanos - now.nanos = 0 := congrArg Duration.nanos h
      omega
    · intro h
      exact congrArg Duration.mk (Nat.sub_eq_zero_of_le h)

theorem Sound.lawful {f : Forest} (hf : f.Sound) {j : Nat} {c : Context}
    (hc : f.context? j = some c) : f.Lawful j c where
  deadline := hf.earliest hc
  done := by
    unfold Context.isDone
    rw [Bool.or_eq_true, hf.isCancelled_iff hc, (hf.earliest hc).isPast_iff]
  wakes := c.wakes_eq_isDone f.tokens f.now
  remaining := (remaining?_eq_zero_iff c f.now).trans ((hf.earliest hc).isPast_iff f.now)
  lasting := by
    intro later
    have hgrows := Grows.run hf later
    exact ⟨hgrows.contexts j c hc, hgrows.isDone⟩

/-! ## §3. Parents, siblings and replaced tokens. -/

/-- A context was made from another by cloning and changing it. -/
inductive Refines (f : Forest) : Nat → Nat → Prop
  | refl (b : Nat) : Refines f b b
  | kept {x k b : Nat} {how : Making} (hx : f.how? x = some how) (hk : how.kept? = some k)
      (h : Refines f k b) : Refines f x b
  | given {x k giver b : Nat} (hx : f.how? x = some (.withToken k giver)) (h : Refines f k b) :
      Refines f x b

/-- The token of a context was replaced by that of another. -/
inductive Replaced (f : Forest) : Nat → Nat → Prop
  | given {x k giver : Nat} (hx : f.how? x = some (.withToken k giver)) : Replaced f x giver
  | kept {x k giver : Nat} {how : Making} (hx : f.how? x = some how) (hk : how.kept? = some k)
      (h : Replaced f k giver) : Replaced f x giver

/-- `p` is a parent of `x`. -/
def IsParent (f : Forest) (p x : Nat) : Prop :=
  ∃ b, f.how? b = some (.child p) ∧ f.Refines x b

/-- `x` and `y` are two children of one parent. -/
def Siblings (f : Forest) (x y : Nat) : Prop :=
  ∃ p b b', b ≠ b' ∧ f.how? b = some (.child p) ∧ f.how? b' = some (.child p)
    ∧ f.Refines x b ∧ f.Refines y b'

/-- Cancelling `x` makes a context end that has not ended. -/
def MakesDone (f : Forest) (x : Nat) (c : Context) : Prop :=
  c.isDone f.tokens f.now = false
    ∧ c.isDone (f.step (.cancel x)).tokens (f.step (.cancel x)).now = true

/-- **WHAT THE END OF A CONTEXT REACHES.** -/
structure Contained (f : Forest) : Prop where
  /-- Those whose token is the same or descends from it. -/
  exactly : ∀ x y cx cy, f.context? x = some cx → f.context? y = some cy →
    (f.MakesDone x cy ↔ cy.isDone f.tokens f.now = false ∧ f.Under cy.token cx.token)
  /-- No parent, unless the token of the cancelled context was replaced. -/
  parent : ∀ p x cp, f.context? p = some cp → f.IsParent p x → f.MakesDone x cp →
    ∃ giver, f.Replaced x giver
  /-- No sibling, unless the token of one of the two was replaced. -/
  sibling : ∀ x y cy, f.context? y = some cy → f.Siblings x y → f.MakesDone x cy →
    ∃ giver, f.Replaced x giver ∨ f.Replaced y giver
  /-- A context whose token was replaced, only through the token that it was given. -/
  replaced : ∀ x y giver cx cy cg, f.context? x = some cx → f.context? y = some cy →
    f.context? giver = some cg → f.Replaced y giver → f.MakesDone x cy →
    f.Under cg.token cx.token

section Reach

variable {f : Forest} {x y : Nat} {c cx cy : Context}

theorem isDone_cancel (c : Context) (ts : Tokens) (t : Token) (now : Duration) :
    c.isDone (ts.cancel t) now = true ↔ c.isDone ts now = true ∨ t.id ∈ c.token.lineage := by
  have hcancel : c.token.isCancelled (ts.cancel t) = true
      ↔ c.token.isCancelled ts = true ∨ t.id ∈ c.token.lineage := by
    unfold Token.isCancelled Tokens.cancel
    simp only [List.any_eq_true, List.contains_eq_mem, List.mem_cons, decide_eq_true_eq]
    constructor
    · rintro ⟨i, hi, rfl | hmem⟩
      · exact .inr hi
      · exact .inl ⟨i, hi, hmem⟩
    · rintro (⟨i, hi, hmem⟩ | hi)
      · exact ⟨i, hi, .inr hmem⟩
      · exact ⟨t.id, hi, .inl rfl⟩
  unfold Context.isDone
  rw [Bool.or_eq_true, Bool.or_eq_true, hcancel]
  exact or_right_comm

theorem makesDone_iff (hx : f.context? x = some cx) (c : Context) :
    f.MakesDone x c ↔ c.isDone f.tokens f.now = false ∧ cx.token.id ∈ c.token.lineage := by
  have hstep : f.step (.cancel x)
      = { f with tokens := f.tokens.cancel cx.token, cancels := x :: f.cancels } := by
    unfold Forest.step
    simp only [hx]
  unfold MakesDone
  rw [hstep]
  refine and_congr_right fun hnot => ?_
  rw [isDone_cancel, hnot]
  exact ⟨fun h => h.resolve_left nofun, .inr⟩

theorem exists_context_of_makesDone (h : f.MakesDone x c) : ∃ cx, f.context? x = some cx := by
  cases hx : f.context? x with
  | some cx => exact ⟨cx, rfl⟩
  | none =>
    have hstep : f.step (.cancel x) = f := by
      unfold Forest.step
      simp only [hx]
    obtain ⟨hnot, hdone⟩ := h
    rw [hstep, hnot] at hdone
    cases hdone

/-- What keeps the token keeps it. -/
theorem Sound.token_kept (hf : f.Sound) {how : Making} {k : Nat} (hc : f.context? x = some c)
    (hx : f.how? x = some how) (hk : how.kept? = some k) :
    ∃ p, f.context? k = some p ∧ c.token = p.token := by
  obtain ⟨g, hg, rfl⟩ := exists_grown_of_how? hx
  rw [context?_of_grown hg] at hc
  cases hc
  obtain ⟨how, born, c⟩ := g
  cases hf.made_of_grown hg with
  | new | child | withToken => cases hk
  | clone hp | withTimeout hp | withDeadline hp | withRequestId hp =>
    cases hk
    exact ⟨_, hp.2, rfl⟩

theorem Sound.token_given (hf : f.Sound) {k giver : Nat} (hc : f.context? x = some c)
    (hx : f.how? x = some (.withToken k giver)) :
    ∃ q, f.context? giver = some q ∧ c.token = q.token := by
  obtain ⟨g, hg, hhow⟩ := exists_grown_of_how? hx
  rw [context?_of_grown hg] at hc
  cases hc
  obtain ⟨how, born, c⟩ := g
  subst hhow
  cases hf.made_of_grown hg with
  | withToken hp hq => exact ⟨_, hq.2, rfl⟩

/-- A context whose token was replaced carries the one that it was given. -/
theorem Sound.token_replaced (hf : f.Sound) {giver : Nat} (h : f.Replaced x giver)
    (hc : f.context? x = some c) : ∃ q, f.context? giver = some q ∧ c.token = q.token := by
  induction h generalizing c with
  | given hx => exact hf.token_given hc hx
  | kept hx hk _ ih =>
    obtain ⟨p, hp, hcp⟩ := hf.token_kept hc hx hk
    obtain ⟨q, hq, hpq⟩ := ih hp
    exact ⟨q, hq, hcp.trans hpq⟩

/-- A context that was changed has its token, or one that it was given. -/
theorem Sound.token_refines (hf : f.Sound) {b : Nat} (h : f.Refines x b)
    (hc : f.context? x = some c) :
    (∃ giver, f.Replaced x giver) ∨ ∃ d, f.context? b = some d ∧ c.token = d.token := by
  induction h generalizing c with
  | refl b => exact .inr ⟨c, hc, rfl⟩
  | given hx _ _ => exact .inl ⟨_, .given hx⟩
  | kept hx hk _ ih =>
    obtain ⟨p, hp, hcp⟩ := hf.token_kept hc hx hk
    rcases ih hp with ⟨giver, hgiver⟩ | ⟨d, hd, hpd⟩
    · exact .inl ⟨giver, .kept hx hk hgiver⟩
    · exact .inr ⟨d, hd, hcp.trans hpd⟩

theorem Sound.exists_parent (hf : f.Sound) {p b : Nat} (hb : f.how? b = some (.child p)) :
    ∃ cp, f.context? p = some cp := by
  obtain ⟨g, hg, hhow⟩ := exists_grown_of_how? hb
  obtain ⟨how, born, c⟩ := g
  subst hhow
  cases hf.made_of_grown hg with
  | child hp _ => exact ⟨_, hp.2⟩

/-- A child has a token that is none of its parent's lineage. -/
theorem Sound.child_notMem (hf : f.Sound) {p b : Nat} {cp d : Context}
    (hb : f.how? b = some (.child p)) (hd : f.context? b = some d) (hp : f.context? p = some cp) :
    d.token.ancestors = cp.token.lineage ∧ d.token.id ∉ cp.token.lineage := by
  obtain ⟨g, hg, hhow⟩ := exists_grown_of_how? hb
  rw [context?_of_grown hg] at hd
  cases hd
  have hanc := (hf.token_child hg hhow hp).1
  refine ⟨hanc, fun hmem => ?_⟩
  -- its lineage would be part of a shorter one
  have hunder := (hf.mem_lineage_iff hp (context?_of_grown hg)).mp hmem
  have hlen := (hf.suffix hunder).length_le
  have hlonger : g.context.token.lineage.length = g.context.token.ancestors.length + 1 := rfl
  rw [hanc] at hlonger
  omega

/-- Two children have two tokens. -/
theorem Sound.child_ne (hf : f.Sound) {p p' b b' : Nat} {d d' : Context} (hne : b ≠ b')
    (hb : f.how? b = some (.child p)) (hb' : f.how? b' = some (.child p'))
    (hd : f.context? b = some d) (hd' : f.context? b' = some d') : d.token.id ≠ d'.token.id := by
  have hnew : ∀ {b p d}, f.how? b = some (.child p) → f.context? b = some d →
      f.Unheard b d.token.id := by
    intro b p d hb hd
    obtain ⟨g, hg, hhow⟩ := exists_grown_of_how? hb
    rw [context?_of_grown hg] at hd
    cases hd
    obtain ⟨how, born, c⟩ := g
    subst hhow
    cases hf.made_of_grown hg with
    | child _ hi => exact hi
  intro hid
  rcases Nat.lt_or_gt_of_ne hne with hlt | hlt
  · exact hnew hb' hd' b d ⟨hlt, hd⟩ hid
  · exact hnew hb hd b' d' ⟨hlt, hd'⟩ hid.symm

/-- **WHAT THE END OF A CONTEXT REACHES**, in a sound forest. -/
theorem Sound.contained (hf : f.Sound) : f.Contained where
  exactly := by
    intro x y cx cy hx hy
    rw [makesDone_iff hx, hf.mem_lineage_iff hy hx]
  parent := by
    rintro p x cp hp ⟨b, hb, href⟩ hdone
    obtain ⟨cx, hx⟩ := exists_context_of_makesDone hdone
    rcases hf.token_refines href hx with hreplaced | ⟨d, hd, htoken⟩
    · exact hreplaced
    · -- the token of a child is not among those above its parent
      have hmem := ((makesDone_iff hx cp).mp hdone).2
      rw [htoken] at hmem
      exact absurd hmem (hf.child_notMem hb hd hp).2
  sibling := by
    rintro x y cy hy ⟨p, b, b', hne, hb, hb', hrefx, hrefy⟩ hdone
    obtain ⟨cx, hx⟩ := exists_context_of_makesDone hdone
    rcases hf.token_refines hrefx hx with ⟨giver, hgiver⟩ | ⟨d, hd, htoken⟩
    · exact ⟨giver, .inl hgiver⟩
    rcases hf.token_refines hrefy hy with ⟨giver, hgiver⟩ | ⟨d', hd', htoken'⟩
    · exact ⟨giver, .inr hgiver⟩
    -- two children have two tokens, and neither is above the other
    have hmem := ((makesDone_iff hx cy).mp hdone).2
    rw [htoken, htoken'] at hmem
    obtain ⟨cp, hcp⟩ := hf.exists_parent hb
    rcases List.mem_cons.mp hmem with hid | hmem
    · exact absurd hid (hf.child_ne hne hb hb' hd hd')
    · rw [(hf.child_notMem hb' hd' hcp).1] at hmem
      exact absurd hmem (hf.child_notMem hb hd hcp).2
  replaced := by
    intro x y giver cx cy cg hx hy hg hreplaced hdone
    obtain ⟨q, hq, htoken⟩ := hf.token_replaced hreplaced hy
    rw [hg] at hq
    cases hq
    rw [← htoken]
    exact (hf.mem_lineage_iff hy hx).mp ((makesDone_iff hx cy).mp hdone).2

end Reach

/-! ## §4. The law. -/

/-- **WHEN A CONTEXT HAS ENDED, AND WHAT ITS END REACHES**, whatever was made, cancelled and waited
for, in any order. -/
theorem contexts_lawful (start : Duration) (steps : List Step) :
    (∀ j c, ((bare start).run steps).context? j = some c → ((bare start).run steps).Lawful j c)
      ∧ ((bare start).run steps).Contained := by
  have hf := (sound_bare start).run steps
  exact ⟨fun _ _ hc => hf.lawful hc, hf.contained⟩

/-- A child of a context with a deadline sets an earlier one; it is not over before that, and its
sibling is not touched when it is cancelled. -/
theorem contexts_lawful_of_two_children :
    let f := (bare .zero).run
      [.make .new, .make (.withTimeout 0 (.ofMillis 5)), .make (.child 1),
        .make (.withDeadline 2 (.ofMillis 3)), .make (.child 1), .advance 3]
    let c : Context := ⟨none, ⟨1, [0]⟩, some (.ofMillis 3)⟩
    let d : Context := ⟨none, ⟨2, [0]⟩, some (.ofMillis 5)⟩
    f.context? 3 = some c ∧ f.context? 4 = some d
      ∧ f.Earliest 3 (some (.ofMillis 3)) ∧ c.remaining? f.now = some .zero
      ∧ f.Siblings 3 4 ∧ ¬ f.MakesDone 3 d := by
  intro f c d
  have hc : f.context? 3 = some c := by decide +kernel
  have hd : f.context? 4 = some d := by decide +kernel
  obtain ⟨hlawful, hcontained⟩ := contexts_lawful .zero
    [.make .new, .make (.withTimeout 0 (.ofMillis 5)), .make (.child 1),
      .make (.withDeadline 2 (.ofMillis 3)), .make (.child 1), .advance 3]
  have hset : f.Sets 3 (.ofMillis 3) := .own (g := ⟨.withDeadline 2 (.ofMillis 3), .zero, c⟩)
    (by decide +kernel) rfl
  have hfirst : f.how? 2 = some (.child 1) := by decide +kernel
  have hchanged : f.how? 3 = some (.withDeadline 2 (.ofMillis 3)) := by decide +kernel
  have hsecond : f.how? 4 = some (.child 1) := by decide +kernel
  have hsiblings : f.Siblings 3 4 :=
    ⟨1, 2, 4, by decide, hfirst, hsecond, .kept hchanged rfl (.refl 2), .refl 4⟩
  refine ⟨hc, hd, (hlawful 3 c hc).deadline,
    (hlawful 3 c hc).remaining.mpr ⟨_, hset, by decide +kernel⟩, hsiblings, ?_⟩
  intro hdone
  -- neither of the two was given a token
  have hborn : ∀ {b giver : Nat}, f.how? b = some (.child 1) → ¬ f.Replaced b giver := by
    intro b giver hb hreplaced
    cases hreplaced with
    | given hx => rw [hb] at hx; cases hx
    | kept hx hk _ => rw [hb] at hx; cases hx; cases hk
  obtain ⟨giver, hreplaced | hreplaced⟩ := hcontained.sibling 3 4 d hd hsiblings hdone
  · cases hreplaced with
    | given hx => rw [hchanged] at hx; cases hx
    | kept hx hk h => rw [hchanged] at hx; cases hx; cases hk; exact hborn hfirst h
  · exact hborn hsecond hreplaced

/-- **A CONTEXT CAN END ITS SIBLING** if that one was given its token: being a parent, a sibling, or
a context whose token was replaced is no shelter. -/
theorem siblings_sharing_a_token :
    ¬ ∀ (steps : List Step) (x y : Nat) (c : Context),
        ((bare .zero).run steps).context? y = some c →
        (((bare .zero).run steps).IsParent y x ∨ ((bare .zero).run steps).Siblings x y
          ∨ ∃ giver, ((bare .zero).run steps).Replaced y giver) →
        ¬ ((bare .zero).run steps).MakesDone x c := by
  intro h
  -- two children of one parent, the second of which gets the token of the first
  let steps : List Step :=
    [.make .new, .make (.child 0), .make (.child 0), .make (.withToken 2 1)]
  have hgiven : ((bare .zero).run steps).how? 3 = some (.withToken 2 1) := by decide +kernel
  have hsiblings : ((bare .zero).run steps).Siblings 1 3 :=
    ⟨0, 1, 2, by decide, by decide +kernel, by decide +kernel, .refl 1, .given hgiven (.refl 2)⟩
  exact h steps 1 3 ⟨none, ⟨1, [0]⟩, none⟩ (by decide +kernel) (.inr (.inl hsiblings))
    ⟨by decide +kernel, by decide +kernel⟩

end Forest

end Admission

/-
  Admission.Proofs.Context.Forest — contexts made from one another, while time passes.

  A forest grows: contexts are made, from nothing or from earlier ones, contexts are cancelled, and
  the clock advances, in any order.  It remembers how each context was made, so what a context
  carries can be compared with its HISTORY: the deadlines that were set on the way to it, and the
  tokens that its token descends from.

  Main results:
    * `Sound.run` — every context is as the way in which it was made says;
    * `Sound.earliest` — a deadline is the earliest of those that were set;
    * `Sound.isCancelled_iff` — **a token is cancelled with itself or with one that it descends
      from, and with no other**.
-/
import Admission.Context

namespace Admission

/-! ## §1. Growing. -/

/-- How a context is made; the numbers are those of contexts that were made before.  A token from
outside is that of a context made for it. -/
inductive Making where
  | new
  | clone (source : Nat)
  | child (source : Nat)
  | withTimeout (source : Nat) (d : Duration)
  | withDeadline (source : Nat) (t : Duration)
  | withToken (source giver : Nat)
  | withRequestId (source : Nat) (id : String)
deriving DecidableEq

/-- The context that a context was made from. -/
def Making.source? : Making → Option Nat
  | .new => none
  | .clone k | .child k | .withTimeout k _ | .withDeadline k _ | .withToken k _
  | .withRequestId k _ => some k

/-- The deadline that is set when a context is made at an instant. -/
def Making.limit? (born : Duration) : Making → Option Duration
  | .withTimeout _ d => some (born + d)
  | .withDeadline _ t => some t
  | .new | .clone _ | .child _ | .withToken _ _ | .withRequestId _ _ => none

/-- A context, how it was made, and when. -/
structure Growth where
  how : Making
  born : Duration
  context : Context
deriving DecidableEq

/-- The contexts made so far, in order, and those that were cancelled. -/
structure Forest where
  now : Duration
  tokens : Tokens
  grown : List Growth
  cancels : List Nat

namespace Forest

/-- One thing that happens. -/
inductive Step where
  | make (how : Making)
  | cancel (k : Nat)
  /-- The clock moves, in whole milliseconds. -/
  | advance (ms : Nat)

/-- No context was made yet. -/
def bare (start : Duration) : Forest := ⟨start, .empty, [], []⟩

def context? (f : Forest) (j : Nat) : Option Context := f.grown[j]?.map (·.context)

def how? (f : Forest) (j : Nat) : Option Making := f.grown[j]?.map (·.how)

/-- The context that is made, and the tokens then. -/
def making (f : Forest) : Making → Option (Context × Tokens)
  | .new => some (Context.root f.tokens)
  | .clone k => (f.context? k).map fun c => (c, f.tokens)
  | .child k => (f.context? k).map fun c => c.child f.tokens
  | .withTimeout k d => (f.context? k).map fun c => (c.withTimeout f.now d, f.tokens)
  | .withDeadline k t => (f.context? k).map fun c => (c.withDeadline t, f.tokens)
  | .withToken k giver =>
    (f.context? k).bind fun c => (f.context? giver).map fun g => (c.withToken g.token, f.tokens)
  | .withRequestId k id => (f.context? k).map fun c => (c.withRequestId id, f.tokens)

/-- The forest with one more context. -/
def grow (f : Forest) (how : Making) (made : Context × Tokens) : Forest :=
  { f with tokens := made.2, grown := f.grown ++ [⟨how, f.now, made.1⟩] }

/-- What refers to no context changes nothing. -/
def step (f : Forest) : Step → Forest
  | .make how =>
    match f.making how with
    | some made => f.grow how made
    | none => f
  | .cancel k =>
    match f.context? k with
    | some c => { f with tokens := f.tokens.cancel c.token, cancels := k :: f.cancels }
    | none => f
  | .advance ms => { f with now := f.now + .ofMillis ms }

def run (f : Forest) (steps : List Step) : Forest := steps.foldl step f

/-! ## §2. Every context is as it was made. -/

/-- An earlier context. -/
def Before (f : Forest) (j k : Nat) (c : Context) : Prop := k < j ∧ f.context? k = some c

/-- No earlier context carries the token with that number. -/
def Unheard (f : Forest) (j i : Nat) : Prop :=
  ∀ k c, f.Before j k c → c.token.id ≠ i

/-- **HOW A CONTEXT WAS MADE** says what it is: a constructor for each way. -/
inductive Made (f : Forest) (j : Nat) (born : Duration) : Making → Context → Prop
  | new {i : Nat} (hi : f.Unheard j i) : Made f j born .new ⟨none, ⟨i, []⟩, none⟩
  | clone {k : Nat} {p : Context} (hp : f.Before j k p) : Made f j born (.clone k) p
  | child {k i : Nat} {p : Context} (hp : f.Before j k p) (hi : f.Unheard j i) :
      Made f j born (.child k) { p with token := ⟨i, p.token.lineage⟩ }
  | withTimeout {k : Nat} {d : Duration} {p : Context} (hp : f.Before j k p) :
      Made f j born (.withTimeout k d) (p.withTimeout born d)
  | withDeadline {k : Nat} {t : Duration} {p : Context} (hp : f.Before j k p) :
      Made f j born (.withDeadline k t) (p.withDeadline t)
  | withToken {k giver : Nat} {p q : Context} (hp : f.Before j k p) (hq : f.Before j giver q) :
      Made f j born (.withToken k giver) (p.withToken q.token)
  | withRequestId {k : Nat} {id : String} {p : Context} (hp : f.Before j k p) :
      Made f j born (.withRequestId k id) (p.withRequestId id)

/-- **SOUNDNESS** of a forest. -/
structure Sound (f : Forest) : Prop where
  bounded : ∀ j c, f.context? j = some c → ∀ i ∈ c.token.lineage, i < f.tokens.fresh
  made : ∀ j g, f.grown[j]? = some g → f.Made j g.born g.how g.context
  known : ∀ k ∈ f.cancels, k < f.grown.length
  cancelled : ∀ i, i ∈ f.tokens.cancelled ↔
    ∃ k ∈ f.cancels, ∃ c, f.context? k = some c ∧ c.token.id = i

theorem Sound.made_of_grown {f : Forest} (hf : f.Sound) {j : Nat} {how : Making} {born : Duration}
    {c : Context} (hg : f.grown[j]? = some ⟨how, born, c⟩) : f.Made j born how c :=
  hf.made j _ hg

section Lookups

variable {f f' : Forest} {j : Nat} {c : Context} {g : Growth}

theorem context?_of_grown (h : f.grown[j]? = some g) : f.context? j = some g.context := by
  unfold context?
  rw [h]
  rfl

theorem exists_grown_of_context? (h : f.context? j = some c) :
    ∃ g, f.grown[j]? = some g ∧ g.context = c := Option.map_eq_some_iff.mp h

theorem exists_grown_of_how? {how : Making} (h : f.how? j = some how) :
    ∃ g, f.grown[j]? = some g ∧ g.how = how := Option.map_eq_some_iff.mp h

theorem lt_of_context? (h : f.context? j = some c) : j < f.grown.length := by
  obtain ⟨g, hg, -⟩ := exists_grown_of_context? h
  exact (List.getElem?_eq_some_iff.mp hg).1

/-- What was made earlier is there in every forest that has grown from this one. -/
theorem Before.grow {k : Nat} (h : f.Before j k c)
    (hsame : ∀ k < j, f'.context? k = f.context? k) : f'.Before j k c :=
  ⟨h.1, (hsame k h.1).trans h.2⟩

theorem Unheard.grow {i : Nat} (h : f.Unheard j i)
    (hsame : ∀ k < j, f'.context? k = f.context? k) : f'.Unheard j i :=
  fun k c hc => h k c ⟨hc.1, (hsame k hc.1).symm.trans hc.2⟩

theorem Made.grow {born : Duration} {how : Making} (h : f.Made j born how c)
    (hsame : ∀ k < j, f'.context? k = f.context? k) : f'.Made j born how c := by
  cases h with
  | new hi => exact .new (hi.grow hsame)
  | clone hp => exact .clone (hp.grow hsame)
  | child hp hi => exact .child (hp.grow hsame) (hi.grow hsame)
  | withTimeout hp => exact .withTimeout (hp.grow hsame)
  | withDeadline hp => exact .withDeadline (hp.grow hsame)
  | withToken hp hq => exact .withToken (hp.grow hsame) (hq.grow hsame)
  | withRequestId hp => exact .withRequestId (hp.grow hsame)

theorem grown_grow_of_lt (how : Making) (made : Context × Tokens) (h : j < f.grown.length) :
    (f.grow how made).grown[j]? = f.grown[j]? := List.getElem?_append_left h

theorem context?_grow_of_lt (how : Making) (made : Context × Tokens) (h : j < f.grown.length) :
    (f.grow how made).context? j = f.context? j := by
  unfold context?
  rw [grown_grow_of_lt how made h]

theorem grown_grow_self (how : Making) (made : Context × Tokens) :
    (f.grow how made).grown[f.grown.length]? = some ⟨how, f.now, made.1⟩ :=
  List.getElem?_concat_length

/-- A context of the grown forest is one of those before, or the one that was made. -/
theorem grown_grow_cases {how : Making} {made : Context × Tokens}
    (h : (f.grow how made).grown[j]? = some g) :
    (j < f.grown.length ∧ f.grown[j]? = some g)
      ∨ j = f.grown.length ∧ g = ⟨how, f.now, made.1⟩ := by
  by_cases hlt : j < f.grown.length
  · rw [grown_grow_of_lt how made hlt] at h
    exact .inl ⟨hlt, h⟩
  · have hle := (List.getElem?_eq_some_iff.mp h).1
    have hlen : (f.grow how made).grown.length = f.grown.length + 1 := List.length_append
    obtain rfl : j = f.grown.length := by omega
    rw [grown_grow_self how made] at h
    exact .inr ⟨rfl, (Option.some.inj h).symm⟩

end Lookups

/-! ## §3. Soundness lasts. -/

section Steps

variable {f : Forest}

/-- What making a context does: the context is as its making says, its tokens are known, and no
token is cancelled by it. -/
structure Birth (f : Forest) (how : Making) (c : Context) (ts : Tokens) : Prop where
  made : f.Made f.grown.length f.now how c
  fresh_le : f.tokens.fresh ≤ ts.fresh
  bounded : ∀ i ∈ c.token.lineage, i < ts.fresh
  cancelled : ts.cancelled = f.tokens.cancelled

theorem Sound.unheard_fresh (hf : f.Sound) : f.Unheard f.grown.length f.tokens.fresh := by
  intro k c hc hid
  have := hf.bounded k c hc.2 c.token.id List.mem_cons_self
  omega

theorem before_of_context? {k : Nat} {p : Context} (hp : f.context? k = some p) :
    f.Before f.grown.length k p := ⟨lt_of_context? hp, hp⟩

theorem Sound.birth (hf : f.Sound) {how : Making} {c : Context} {ts : Tokens}
    (h : f.making how = some (c, ts)) : f.Birth how c ts := by
  -- only a new context and a child have a token of their own; all others hand one on
  cases how with
  | new =>
    cases h
    refine ⟨.new hf.unheard_fresh, Nat.le_succ _, ?_, rfl⟩
    intro i hi
    rw [List.mem_singleton.mp hi]
    exact Nat.lt_succ_self _
  | child k =>
    obtain ⟨p, hp, hc⟩ := Option.map_eq_some_iff.mp h
    cases hc
    refine ⟨.child (before_of_context? hp) hf.unheard_fresh, Nat.le_succ _, ?_, rfl⟩
    intro i hi
    rcases List.mem_cons.mp hi with rfl | hi
    · exact Nat.lt_succ_self _
    · exact Nat.lt_succ_of_lt (hf.bounded k p hp i hi)
  | clone k =>
    obtain ⟨p, hp, hc⟩ := Option.map_eq_some_iff.mp h
    cases hc
    exact ⟨.clone (before_of_context? hp), Nat.le_refl _, hf.bounded k _ hp, rfl⟩
  | withTimeout k d =>
    obtain ⟨p, hp, hc⟩ := Option.map_eq_some_iff.mp h
    cases hc
    exact ⟨.withTimeout (before_of_context? hp), Nat.le_refl _, hf.bounded k p hp, rfl⟩
  | withDeadline k t =>
    obtain ⟨p, hp, hc⟩ := Option.map_eq_some_iff.mp h
    cases hc
    exact ⟨.withDeadline (before_of_context? hp), Nat.le_refl _, hf.bounded k p hp, rfl⟩
  | withToken k giver =>
    obtain ⟨p, hp, hrest⟩ := Option.bind_eq_some_iff.mp h
    obtain ⟨q, hq, hc⟩ := Option.map_eq_some_iff.mp hrest
    cases hc
    exact ⟨.withToken (before_of_context? hp) (before_of_context? hq), Nat.le_refl _,
      hf.bounded giver q hq, rfl⟩
  | withRequestId k id =>
    obtain ⟨p, hp, hc⟩ := Option.map_eq_some_iff.mp h
    cases hc
    exact ⟨.withRequestId (before_of_context? hp), Nat.le_refl _, hf.bounded k p hp, rfl⟩

theorem Sound.grow (hf : f.Sound) {how : Making} {c : Context} {ts : Tokens}
    (hb : f.Birth how c ts) : (f.grow how (c, ts)).Sound := by
  have hsame : ∀ k < f.grown.length, (f.grow how (c, ts)).context? k = f.context? k :=
    fun k hk => context?_grow_of_lt how (c, ts) hk
  constructor
  · intro j d hd i hi
    obtain ⟨g, hg, rfl⟩ := exists_grown_of_context? hd
    rcases grown_grow_cases hg with ⟨-, hg⟩ | ⟨-, rfl⟩
    · exact Nat.lt_of_lt_of_le (hf.bounded j _ (context?_of_grown hg) i hi) hb.fresh_le
    · exact hb.bounded i hi
  · intro j g hg
    rcases grown_grow_cases hg with ⟨hlt, hg⟩ | ⟨rfl, rfl⟩
    · exact (hf.made j g hg).grow fun k hk => hsame k (by omega)
    · exact hb.made.grow hsame
  · intro k hk
    rw [show (f.grow how (c, ts)).grown.length = f.grown.length + 1 from List.length_append]
    exact Nat.lt_succ_of_lt (hf.known k hk)
  · intro i
    show i ∈ ts.cancelled ↔ ∃ k ∈ f.cancels, _
    rw [hb.cancelled, hf.cancelled]
    refine exists_congr fun k => and_congr_right fun hk => ?_
    rw [hsame k (hf.known k hk)]

/-- Cancelling a context cancels its token. -/
theorem Sound.cancel (hf : f.Sound) {k : Nat} {c : Context} (hc : f.context? k = some c) :
    Sound { f with tokens := f.tokens.cancel c.token, cancels := k :: f.cancels } := by
  refine ⟨hf.bounded, fun j g hg => (hf.made j g hg).grow fun _ _ => rfl, ?_, ?_⟩
  · intro m hm
    rcases List.mem_cons.mp hm with rfl | hm
    · exact lt_of_context? hc
    · exact hf.known m hm
  · intro i
    show i ∈ c.token.id :: f.tokens.cancelled ↔ ∃ m ∈ k :: f.cancels, ∃ d, f.context? m = some d ∧ _
    rw [List.mem_cons, hf.cancelled]
    constructor
    · rintro (rfl | ⟨m, hm, h⟩)
      · exact ⟨k, List.mem_cons_self, c, hc, rfl⟩
      · exact ⟨m, List.mem_cons_of_mem _ hm, h⟩
    · rintro ⟨m, hm, d, hd, rfl⟩
      rcases List.mem_cons.mp hm with rfl | hm
      · rw [hc] at hd
        cases hd
        exact .inl rfl
      · exact .inr ⟨m, hm, d, hd, rfl⟩

theorem Sound.step (hf : f.Sound) (s : Step) : (f.step s).Sound := by
  unfold Forest.step
  cases s with
  | make how =>
    show (match f.making how with
      | some made => f.grow how made
      | none => f).Sound
    cases h : f.making how with
    | none => exact hf
    | some made => exact hf.grow (hf.birth h)
  | cancel k =>
    show (match f.context? k with
      | some c => { f with tokens := f.tokens.cancel c.token, cancels := k :: f.cancels }
      | none => f).Sound
    cases h : f.context? k with
    | none => exact hf
    | some c => exact hf.cancel h
  | advance ms => exact ⟨hf.bounded, fun j g hg => (hf.made j g hg).grow fun _ _ => rfl, hf.known,
      hf.cancelled⟩

theorem sound_bare (start : Duration) : (bare start).Sound := by
  refine ⟨nofun, nofun, nofun, fun i => ⟨nofun, ?_⟩⟩
  rintro ⟨k, hk, -⟩
  cases hk

/-- **SOUNDNESS LASTS.** -/
theorem Sound.run (hf : f.Sound) (steps : List Step) : (f.run steps).Sound := by
  induction steps generalizing f with
  | nil => exact hf
  | cons s rest ih => exact ih (hf.step s)

end Steps

/-! ## §4. Deadlines. -/

/-- **THE DEADLINES THAT WERE SET** on the way to a context. -/
inductive Sets (f : Forest) : Nat → Duration → Prop
  | own {j : Nat} {g : Growth} {t : Duration} (hg : f.grown[j]? = some g)
      (ht : g.how.limit? g.born = some t) : Sets f j t
  | inherited {j k : Nat} {g : Growth} {t : Duration} (hg : f.grown[j]? = some g)
      (hk : g.how.source? = some k) (ht : Sets f k t) : Sets f j t

/-- The earliest of the deadlines that were set, if any was. -/
def Earliest (f : Forest) (j : Nat) : Option Duration → Prop
  | none => ∀ t, ¬ f.Sets j t
  | some t => f.Sets j t ∧ ∀ u, f.Sets j u → t ≤ u

section Deadlines

variable {f : Forest} {j k : Nat} {g : Growth}

theorem sets_iff (hg : f.grown[j]? = some g) (t : Duration) :
    f.Sets j t ↔ g.how.limit? g.born = some t ∨ ∃ k, g.how.source? = some k ∧ f.Sets k t := by
  constructor
  · intro h
    cases h with
    | own hg' ht =>
      rw [hg] at hg'
      cases hg'
      exact .inl ht
    | inherited hg' hk ht =>
      rw [hg] at hg'
      cases hg'
      exact .inr ⟨_, hk, ht⟩
  · rintro (ht | ⟨k, hk, ht⟩)
    · exact .own hg ht
    · exact .inherited hg hk ht

/-- A context that sets no deadline has that of its source. -/
theorem Earliest.keep {o : Option Duration} (h : f.Earliest k o) (hg : f.grown[j]? = some g)
    (hk : g.how.source? = some k) (hnone : g.how.limit? g.born = none) : f.Earliest j o := by
  have hiff : ∀ t, f.Sets j t ↔ f.Sets k t := by
    intro t
    rw [sets_iff hg, hnone, hk]
    constructor
    · rintro (ht | ⟨m, hm, ht⟩)
      · cases ht
      · cases hm
        exact ht
    · intro ht
      exact .inr ⟨k, rfl, ht⟩
  cases o with
  | none => exact fun t ht => h t ((hiff t).mp ht)
  | some t => exact ⟨(hiff t).mpr h.1, fun u hu => h.2 u ((hiff u).mp hu)⟩

/-- A context that sets a deadline has that one or its source's, whichever is earlier. -/
theorem Earliest.set {p : Context} {l : Duration} (h : f.Earliest k p.deadline)
    (hg : f.grown[j]? = some g) (hk : g.how.source? = some k)
    (hl : g.how.limit? g.born = some l) : f.Earliest j (p.withDeadline l).deadline := by
  -- the new context has the limit that is set and those of its source
  have hiff : ∀ t, f.Sets j t ↔ t = l ∨ f.Sets k t := by
    intro t
    rw [sets_iff hg, hl, hk]
    constructor
    · rintro (ht | ⟨m, hm, ht⟩)
      · cases ht
        exact .inl rfl
      · cases hm
        exact .inr ht
    · rintro (rfl | ht)
      · exact .inl rfl
      · exact .inr ⟨k, rfl, ht⟩
  unfold Context.withDeadline
  cases hp : p.deadline with
  | none =>
    rw [hp] at h
    refine ⟨(hiff l).mpr (.inl rfl), fun u hu => ?_⟩
    rcases (hiff u).mp hu with rfl | hu
    · exact Nat.le_refl _
    · exact absurd hu (h u)
  | some t =>
    rw [hp] at h
    show f.Sets j (t.earlier l) ∧ _
    have hmin : ∀ u, u = l ∨ f.Sets k u → t.earlier l ≤ u := by
      intro u hu
      rw [Duration.le_def, Duration.nanos_earlier]
      rcases hu with rfl | hu
      · exact Nat.min_le_right _ _
      · exact Nat.le_trans (Nat.min_le_left _ _) (h.2 u hu)
    refine ⟨(hiff _).mpr ?_, fun u hu => hmin u ((hiff u).mp hu)⟩
    unfold Duration.earlier
    split
    · exact .inr h.1
    · exact .inl rfl

/-- **A DEADLINE IS THE EARLIEST OF THOSE THAT WERE SET.** -/
theorem Sound.earliest (hf : f.Sound) :
    ∀ {j : Nat} {c : Context}, f.context? j = some c → f.Earliest j c.deadline := by
  intro j
  -- a context comes after its source
  induction j using Nat.strongRecOn with
  | ind j ih =>
    intro c hc
    obtain ⟨g, hg, rfl⟩ := exists_grown_of_context? hc
    obtain ⟨how, born, c⟩ := g
    cases hf.made_of_grown hg with
    | new hi =>
      intro t ht
      rcases (sets_iff hg t).mp ht with ht | ⟨k, hk, -⟩
      · cases ht
      · cases hk
    | clone hp => exact (ih _ hp.1 hp.2).keep hg rfl rfl
    | child hp hi => exact (ih _ hp.1 hp.2).keep hg rfl rfl
    | withTimeout hp => exact (ih _ hp.1 hp.2).set hg rfl rfl
    | withDeadline hp => exact (ih _ hp.1 hp.2).set hg rfl rfl
    | withToken hp hq => exact (ih _ hp.1 hp.2).keep hg rfl rfl
    | withRequestId hp => exact (ih _ hp.1 hp.2).keep hg rfl rfl

/-- The deadline has come exactly if one of those that were set has. -/
theorem Earliest.isPast_iff {c : Context} (h : f.Earliest j c.deadline) (now : Duration) :
    c.isPast now = true ↔ ∃ t, f.Sets j t ∧ t ≤ now := by
  unfold Context.isPast
  cases hd : c.deadline with
  | none =>
    rw [hd] at h
    constructor
    · nofun
    · rintro ⟨t, ht, -⟩
      exact absurd ht (h t)
  | some t =>
    rw [hd] at h
    show decide (t ≤ now) = true ↔ _
    rw [decide_eq_true_iff]
    constructor
    · intro hle
      exact ⟨t, h.1, hle⟩
    · rintro ⟨u, hu, hle⟩
      exact Nat.le_trans (h.2 u hu) hle

end Deadlines

/-! ## §5. Tokens. -/

/-- **THE TOKENS THAT A TOKEN DESCENDS FROM**, itself included. -/
inductive Under (f : Forest) : Token → Token → Prop
  | refl (t : Token) : Under f t t
  | child {j k : Nat} {g : Growth} {p : Context} {t : Token} (hg : f.grown[j]? = some g)
      (hk : g.how = .child k) (hp : f.context? k = some p) (ht : Under f p.token t) :
      Under f g.context.token t

section Ancestry

variable {f : Forest} {j k : Nat} {c d p : Context}

/-- A child has a token of its own, which follows its parent's. -/
theorem Sound.token_child (hf : f.Sound) {g : Growth} (hg : f.grown[j]? = some g)
    (hk : g.how = .child k) (hp : f.context? k = some p) :
    g.context.token.ancestors = p.token.lineage ∧ f.Unheard j g.context.token.id := by
  obtain ⟨how, born, c⟩ := g
  subst hk
  cases hf.made_of_grown hg with
  | child hp' hi =>
    obtain rfl : _ = p := Option.some.inj (hp'.2.symm.trans hp)
    exact ⟨rfl, hi⟩

theorem Sound.suffix (hf : f.Sound) {s t : Token} (h : f.Under s t) : t.lineage <:+ s.lineage := by
  induction h with
  | refl t => exact List.suffix_refl _
  | child hg hk hp _ ih =>
    refine ih.trans ?_
    rw [← (hf.token_child hg hk hp).1]
    exact List.suffix_cons _ _

/-- Every number in a lineage is that of a token which a context carries. -/
theorem Sound.exists_under (hf : f.Sound) :
    ∀ {j : Nat} {c : Context}, f.context? j = some c → ∀ i ∈ c.token.lineage,
      ∃ m d, f.context? m = some d ∧ d.token.id = i ∧ f.Under c.token d.token := by
  intro j
  induction j using Nat.strongRecOn with
  | ind j ih =>
    intro c hc i hi
    obtain ⟨g, hg, rfl⟩ := exists_grown_of_context? hc
    obtain ⟨how, born, c⟩ := g
    cases hf.made_of_grown hg with
    | new _ => exact ⟨j, _, hc, (List.mem_singleton.mp hi).symm, .refl _⟩
    | child hp _ =>
      rcases List.mem_cons.mp hi with rfl | hi
      · exact ⟨j, _, hc, rfl, .refl _⟩
      · obtain ⟨m, d, hd, hid, hu⟩ := ih _ hp.1 hp.2 i hi
        exact ⟨m, d, hd, hid, .child hg rfl hp.2 hu⟩
    | clone hp => exact ih _ hp.1 hp.2 i hi
    | withTimeout hp => exact ih _ hp.1 hp.2 i hi
    | withDeadline hp => exact ih _ hp.1 hp.2 i hi
    | withToken _ hq => exact ih _ hq.1 hq.2 i hi
    | withRequestId hp => exact ih _ hp.1 hp.2 i hi

/-- Every token was new with some context, and none carried it before. -/
theorem Sound.exists_birth (hf : f.Sound) :
    ∀ {j : Nat} {c : Context}, f.context? j = some c →
      ∃ b d, f.context? b = some d ∧ d.token = c.token ∧ f.Unheard b c.token.id := by
  intro j
  induction j using Nat.strongRecOn with
  | ind j ih =>
    intro c hc
    obtain ⟨g, hg, rfl⟩ := exists_grown_of_context? hc
    obtain ⟨how, born, c⟩ := g
    -- a context that was handed its token is traced back to where the token was made
    cases hf.made_of_grown hg with
    | new hi => exact ⟨j, _, hc, rfl, hi⟩
    | child _ hi => exact ⟨j, _, hc, rfl, hi⟩
    | clone hp => exact ih _ hp.1 hp.2
    | withTimeout hp =>
      have hbirth := ih _ hp.1 hp.2
      exact hbirth
    | withDeadline hp =>
      have hbirth := ih _ hp.1 hp.2
      exact hbirth
    | withToken _ hq =>
      have hbirth := ih _ hq.1 hq.2
      exact hbirth
    | withRequestId hp =>
      have hbirth := ih _ hp.1 hp.2
      exact hbirth

/-- A number belongs to one token. -/
theorem Sound.token_eq (hf : f.Sound) (hc : f.context? j = some c) (hd : f.context? k = some d)
    (h : c.token.id = d.token.id) : c.token = d.token := by
  obtain ⟨b, c', hc', hct, hbc⟩ := hf.exists_birth hc
  obtain ⟨b', d', hd', hdt, hbd⟩ := hf.exists_birth hd
  rcases Nat.lt_trichotomy b b' with hlt | rfl | hlt
  · exact absurd (by rw [hct, h]) (hbd b c' ⟨hlt, hc'⟩)
  · rw [hc'] at hd'
    cases hd'
    exact hct.symm.trans hdt
  · exact absurd (by rw [hdt, h]) (hbc b' d' ⟨hlt, hd'⟩)

/-- A lineage has the numbers of the tokens that the token descends from. -/
theorem Sound.mem_lineage_iff (hf : f.Sound) (hc : f.context? j = some c)
    (hd : f.context? k = some d) : d.token.id ∈ c.token.lineage ↔ f.Under c.token d.token := by
  constructor
  · intro hi
    obtain ⟨m, e, he, hid, hu⟩ := hf.exists_under hc _ hi
    rwa [← hf.token_eq he hd hid]
  · intro hu
    exact (hf.suffix hu).subset List.mem_cons_self

/-- **A TOKEN IS CANCELLED WITH THOSE THAT IT DESCENDS FROM**, and with no other. -/
theorem Sound.isCancelled_iff (hf : f.Sound) (hc : f.context? j = some c) :
    c.token.isCancelled f.tokens = true
      ↔ ∃ k ∈ f.cancels, ∃ d, f.context? k = some d ∧ f.Under c.token d.token := by
  unfold Token.isCancelled
  rw [List.any_eq_true]
  constructor
  · rintro ⟨i, hi, hcancelled⟩
    obtain ⟨k, hk, d, hd, rfl⟩ := (hf.cancelled i).mp (by simpa using hcancelled)
    exact ⟨k, hk, d, hd, (hf.mem_lineage_iff hc hd).mp hi⟩
  · rintro ⟨k, hk, d, hd, hu⟩
    refine ⟨d.token.id, (hf.mem_lineage_iff hc hd).mpr hu, ?_⟩
    simpa using (hf.cancelled _).mpr ⟨k, hk, d, hd, rfl⟩

end Ancestry

end Forest

end Admission

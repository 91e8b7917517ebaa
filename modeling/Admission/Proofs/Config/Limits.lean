/-
  Admission.Proofs.Config.Limits — the three checks of limits draw one line.

  Limits are checked where a gate is built from words, where options are made of signed numbers, and
  where settings are read.  Each check has its own text, its own conversion and its own order.  Here
  each is computed from ONE verdict on exact integers, `limitFault?`, so that the checks agree on all
  pairs of numbers: around zero, around the permits of a pool and around the ends of a word.

  Main results:
    * `Gate.ofOptions_eq`, `Options.ofSigned_eq`, `GateSettings.toOptions_eq` — each check in terms
      of the verdict;
    * `limits_exact_and_agree` — **the limits of a gate are exact, and the checks agree**.
-/
import Admission.Proofs.Config.Bounds
import Mathlib.Algebra.Order.Ring.Int

namespace Admission

/-! ## §1. The verdict on exact numbers. -/

/-- What is wrong with a pair of numbers, as integers without an end: the limit comes first, then the
backlog, then their sum. -/
def limitFault? (limit backlogLimit : Int) : Option OptionsError :=
  if limit ≤ 0 then some (.limitNotPositive limit)
  else if backlogLimit < 0 then some (.backlogNegative backlogLimit)
  else if limit + backlogLimit ≤ Options.maxPermits then none
  else some .sumTooLarge

/-- Nothing is wrong iff somebody may run, the backlog is not negative, and one pool can hold all. -/
theorem limitFault?_eq_none_iff {limit backlogLimit : Int} :
    limitFault? limit backlogLimit = none ↔
      1 ≤ limit ∧ 0 ≤ backlogLimit ∧ limit + backlogLimit ≤ 2 ^ 61 - 1 := by
  have hmax : ((Options.maxPermits : Nat) : Int) = 2 ^ 61 - 1 := by decide
  unfold limitFault?
  rw [hmax]
  split
  · exact ⟨nofun, by omega⟩
  split
  · exact ⟨nofun, by omega⟩
  split
  · exact ⟨fun _ => by omega, fun _ => rfl⟩
  · exact ⟨nofun, by omega⟩

/-- The sum is the last thing that can be wrong, and one pool is what it is too large for. -/
theorem eq_of_limitFault? {limit backlogLimit : Int} {e : OptionsError}
    (h : limitFault? limit backlogLimit = some e) :
    e = if limit ≤ 0 then .limitNotPositive limit
      else if backlogLimit < 0 then .backlogNegative backlogLimit
      else .sumTooLarge := by
  unfold limitFault? at h
  split at h
  next hl => rw [if_pos hl]; exact (Option.some.inj h).symm
  next hl =>
    rw [if_neg hl]
    split at h
    next hb => rw [if_pos hb]; exact (Option.some.inj h).symm
    next hb =>
      rw [if_neg hb]
      split at h
      · cases h
      · exact (Option.some.inj h).symm

/-- What a check yields, once the verdict is known. -/
def judged {α : Type} (verdict : Option OptionsError) (value : α) : Except OptionsError α :=
  match verdict with
  | none => .ok value
  | some e => .error e

section Judged

variable {α : Type} {verdict : Option OptionsError} {value : α}

@[simp] theorem judged_none : judged none value = .ok value := rfl

@[simp] theorem judged_some {e : OptionsError} : judged (some e) value = .error e := rfl

theorem judged_eq_ok_iff {x : α} : judged verdict value = .ok x ↔ verdict = none ∧ x = value := by
  cases verdict with
  | none => exact ⟨fun h => ⟨rfl, (Except.ok.inj h).symm⟩, fun h => by rw [h.2]; rfl⟩
  | some e => exact ⟨nofun, nofun⟩

theorem judged_eq_error_iff {e : OptionsError} :
    judged verdict value = .error e ↔ verdict = some e := by
  cases verdict with
  | none => exact ⟨nofun, nofun⟩
  | some d => exact ⟨fun h => congrArg some (Except.error.inj h), fun h => by cases h; rfl⟩

theorem exists_judged_eq_ok_iff : (∃ x, judged verdict value = .ok x) ↔ verdict = none :=
  ⟨fun ⟨_, h⟩ => (judged_eq_ok_iff.mp h).1, fun h => ⟨value, judged_eq_ok_iff.mpr ⟨h, rfl⟩⟩⟩

end Judged

/-! ## §2. Each check in terms of the verdict. -/

namespace Options

/-- The options hold just these numbers. -/
structure Carries (o : Options) (limit backlogLimit : Int) : Prop where
  limit : (o.limit.toNat : Int) = limit
  backlogLimit : (o.backlogLimit.toNat : Int) = backlogLimit

theorem carries_self (o : Options) : o.Carries o.limit.toNat o.backlogLimit.toNat := ⟨rfl, rfl⟩

/-- The check of words sees the exact sum, also where the sum is no word. -/
theorem Carries.validate_eq {o : Options} {limit backlogLimit : Int}
    (h : o.Carries limit backlogLimit) :
    o.validate = judged (limitFault? limit backlogLimit) () := by
  obtain ⟨hlimit, hbacklog⟩ := h
  have hzero : o.limit = 0 ↔ o.limit.toNat = 0 := UInt64.toNat_inj.symm
  have hword : maxPermits ≤ maxWord := by decide
  unfold validate capacity? limitFault?
  by_cases hl : o.limit = 0
  · have hle : limit ≤ 0 := by have := hzero.mp hl; omega
    rw [if_pos hl, if_pos hle, show limit = 0 by omega]
    rfl
  · have hpos : ¬limit ≤ 0 := by
      intro hle
      exact hl (hzero.mpr (by omega))
    rw [if_neg hl, if_neg hpos, if_neg (show ¬backlogLimit < 0 by omega)]
    simp only
    -- a sum that is no word is beyond one pool all the more
    by_cases hsum : o.limit.toNat + o.backlogLimit.toNat ≤ maxPermits
    · rw [if_pos (Nat.le_trans hsum hword), if_pos (show limit + backlogLimit ≤ maxPermits by omega)]
      simp only [hsum, if_true, judged_none]
    · rw [if_neg (show ¬limit + backlogLimit ≤ maxPermits by omega)]
      split
      next capacity hcap =>
        split at hcap
        · rw [← Option.some.inj hcap, if_neg hsum]
          rfl
        · cases hcap
      next => rfl

/-- **THE CAPACITY OF CHECKED OPTIONS** is the exact sum, and a word. -/
theorem capacity?_of_validate {o : Options} (h : o.validate = .ok ()) :
    o.capacity? = some (o.limit.toNat + o.backlogLimit.toNat) := by
  have hle := ((validate_eq_ok_iff o).mp h).2
  exact if_pos (Nat.le_trans hle (by decide))

/-- Signed numbers that are not negative, as the words of options. -/
theorem carries_words (limit backlogLimit : Int64) (hl : 0 ≤ limit.toInt)
    (hb : 0 ≤ backlogLimit.toInt) (wait : BacklogWait) :
    ((ofLimit limit.toUInt64).withBacklog backlogLimit.toUInt64 wait).Carries
      limit.toInt backlogLimit.toInt :=
  ⟨toNat_toUInt64 hl, toNat_toUInt64 hb⟩

/-- **SIGNED NUMBERS**: the check before the conversion and the check after it make one verdict. -/
theorem ofSigned_eq (limit backlogLimit : Int64) (wait : BacklogWait) :
    ofSigned limit backlogLimit wait =
      judged (limitFault? limit.toInt backlogLimit.toInt)
        ((ofLimit limit.toUInt64).withBacklog backlogLimit.toUInt64 wait) := by
  unfold ofSigned
  by_cases hl : limit.toInt ≤ 0
  · rw [if_pos hl, limitFault?, if_pos hl]
    rfl
  by_cases hb : backlogLimit.toInt < 0
  · rw [if_neg hl, if_pos hb, limitFault?, if_neg hl, if_pos hb]
    rfl
  have hcarries := carries_words limit backlogLimit (by omega) (by omega) wait
  rw [if_neg hl, if_neg hb]
  simp only [hcarries.validate_eq]
  cases limitFault? limit.toInt backlogLimit.toInt with
  | none => rfl
  | some e => rfl

end Options

namespace Gate

/-- **A GATE FROM WORDS**: the verdict decides, and the branch for a sum that is no word does not
show. -/
theorem ofOptions_eq (o : Options) :
    Gate.ofOptions o =
      judged (limitFault? o.limit.toNat o.backlogLimit.toNat)
        (.ofLimits o.limit.toNat (o.limit.toNat + o.backlogLimit.toNat) o.wait) := by
  have hvalid := o.carries_self.validate_eq
  unfold Gate.ofOptions
  cases hfault : limitFault? o.limit.toNat o.backlogLimit.toNat with
  | some e =>
      rw [hfault] at hvalid
      rw [hvalid]
      rfl
  | none =>
      rw [hfault] at hvalid
      rw [hvalid, judged_none, judged_none]
      simp only [Options.capacity?_of_validate hvalid]

/-- The numbers of a new gate are those of its options, with nothing lost to the width of a word. -/
structure Exactly (g : Gate) (o : Options) : Prop where
  limit : g.limit = o.limit.toNat
  capacity : g.capacity = o.limit.toNat + o.backlogLimit.toNat
  wait : g.wait = o.wait
  /-- All permits are in their pools. -/
  freeRun : g.freeRun = g.limit
  freeBacklog : g.freeBacklog = g.capacity
  /-- A pool of so many permits can be made. -/
  pools : g.freeRun ≤ Options.maxPermits ∧ g.freeBacklog ≤ Options.maxPermits
  /-- The figures show the same numbers. -/
  shown : g.snapshot.limit.toNat = g.limit ∧ g.snapshot.backlogCapacity.toNat = g.capacity

theorem exactly_of_ofOptions {o : Options} {g : Gate} (h : Gate.ofOptions o = .ok g) :
    g.Exactly o := by
  rw [ofOptions_eq, judged_eq_ok_iff] at h
  obtain ⟨hfault, rfl⟩ := h
  obtain ⟨-, -, hsum⟩ := limitFault?_eq_none_iff.mp hfault
  have hmax : Options.maxPermits = 2 ^ 61 - 1 := by decide
  have hcapacity : o.limit.toNat + o.backlogLimit.toNat < UInt64.size := by
    show _ < 2 ^ 64
    omega
  have hlimit : o.limit.toNat < UInt64.size := o.limit.toNat_lt
  refine ⟨rfl, rfl, rfl, rfl, rfl, ⟨?_, ?_⟩, ⟨?_, ?_⟩⟩
  · show o.limit.toNat ≤ _
    omega
  · show o.limit.toNat + o.backlogLimit.toNat ≤ _
    omega
  · exact UInt64.toNat_ofNat_of_lt' hlimit
  · exact UInt64.toNat_ofNat_of_lt' hcapacity

end Gate

namespace Config.GateSettings

/-- The status of settings: the default where the code is 0. -/
def status? (s : GateSettings) : Option Status :=
  if s.statusCode = 0 then some .tooManyRequests else Status.ofNat? s.statusCode.toNat

theorem isSome_status?_iff (s : GateSettings) :
    s.status?.isSome ↔
      s.statusCode.toNat = 0 ∨ (100 ≤ s.statusCode.toNat ∧ s.statusCode.toNat ≤ 999) := by
  have hzero : s.statusCode = 0 ↔ s.statusCode.toNat = 0 := UInt16.toNat_inj.symm
  unfold status?
  split
  next h => exact ⟨fun _ => .inl (hzero.mp h), fun _ => rfl⟩
  next h =>
    rw [Status.ofNat?_isSome]
    constructor
    · exact .inr
    · rintro (h' | h')
      · exact absurd (hzero.mpr h') h
      · exact h'

/-- What settings with sound limits and this status ask for. -/
def optionsWith (s : GateSettings) (status : Status) : Options :=
  { limit := s.limit.toUInt64, backlogLimit := s.backlogLimit.toUInt64, wait := s.wait
    status, retryAfter := s.retryAdvice? }

/-- **SETTINGS**: the verdict on the limits comes first, the status after it. -/
theorem toOptions_eq (s : GateSettings) :
    s.toOptions =
      match limitFault? s.limit.toInt s.backlogLimit.toInt, s.status? with
      | some e, _ => .error e
      | none, some status => .ok (s.optionsWith status)
      | none, none => .error (.invalidStatus s.statusCode.toNat) := by
  unfold toOptions status?
  rw [Options.ofSigned_eq]
  cases limitFault? s.limit.toInt s.backlogLimit.toInt with
  | some e => rfl
  | none =>
      simp only [judged_none]
      split
      next => rfl
      next =>
        cases Status.ofNat? s.statusCode.toNat with
        | some status => rfl
        | none => rfl

end Config.GateSettings

/-! ## §3. Exactness and agreement. -/

open Config (GateSettings)

/-- Words build a gate iff nothing is wrong with the numbers they hold. -/
theorem Options.Carries.exists_gate_iff {o : Options} {limit backlogLimit : Int}
    (h : o.Carries limit backlogLimit) :
    (∃ g, Gate.ofOptions o = .ok g) ↔ limitFault? limit backlogLimit = none := by
  obtain ⟨rfl, rfl⟩ := h
  rw [Gate.ofOptions_eq]
  exact exists_judged_eq_ok_iff

/-- Signed numbers make options iff nothing is wrong with them. -/
theorem Options.exists_ofSigned_iff (limit backlogLimit : Int64) (wait : BacklogWait) :
    (∃ o, ofSigned limit backlogLimit wait = .ok o)
      ↔ limitFault? limit.toInt backlogLimit.toInt = none := by
  rw [ofSigned_eq]
  exact exists_judged_eq_ok_iff

/-- Options of signed numbers, or of settings, hold their numbers and build a gate. -/
theorem Options.carries_of_fault {limit backlogLimit : Int64}
    (h : limitFault? limit.toInt backlogLimit.toInt = none) {o : Options}
    (hl : o.limit = limit.toUInt64) (hb : o.backlogLimit = backlogLimit.toUInt64) :
    o.Carries limit.toInt backlogLimit.toInt ∧ ∃ g, Gate.ofOptions o = .ok g := by
  obtain ⟨hlimit, hbacklog, -⟩ := limitFault?_eq_none_iff.mp h
  have hcarries : o.Carries limit.toInt backlogLimit.toInt := by
    refine ⟨?_, ?_⟩
    · rw [hl]
      exact toNat_toUInt64 (by omega)
    · rw [hb]
      exact toNat_toUInt64 hbacklog
  exact ⟨hcarries, hcarries.exists_gate_iff.mpr h⟩

/-- Sound settings are sound limits together with a status. -/
theorem Config.GateSettings.exists_options_iff (s : GateSettings) :
    (∃ o, s.toOptions = .ok o) ↔
      limitFault? s.limit.toInt s.backlogLimit.toInt = none ∧ s.status?.isSome := by
  rw [toOptions_eq]
  cases limitFault? s.limit.toInt s.backlogLimit.toInt with
  | some e => exact ⟨nofun, nofun⟩
  | none =>
      cases s.status? with
      | some status => exact ⟨fun _ => ⟨rfl, rfl⟩, fun _ => ⟨_, rfl⟩⟩
      | none => exact ⟨nofun, nofun⟩

/-- **THE LIMITS OF A GATE ARE EXACT, AND ALL CHECKS AGREE.**

From words, a gate is built iff somebody may run and the EXACT sum fits one pool; it then has these
very numbers, any refusal says which of the two failed, and the sum of checked options is always a
word.  From signed numbers, options are made iff in addition none is negative, which is iff the words
with the same numbers build a gate.  From settings, iff in addition the status is 0 or has three
digits, and a fault of the limits hides one of the status. -/
theorem limits_exact_and_agree :
    (∀ o : Options,
      ((∃ g, Gate.ofOptions o = .ok g) ↔
          1 ≤ o.limit.toNat ∧ o.limit.toNat + o.backlogLimit.toNat ≤ 2 ^ 61 - 1)
        ∧ (∀ g, Gate.ofOptions o = .ok g → g.Exactly o)
        ∧ (∀ e, Gate.ofOptions o = .error e →
            e = if o.limit.toNat = 0 then .limitNotPositive 0 else .sumTooLarge)
        ∧ (o.validate = .ok () → o.capacity? = some (o.limit.toNat + o.backlogLimit.toNat)))
    ∧ (∀ (l b : Int64) (t : BacklogWait),
      ((∃ o, Options.ofSigned l b t = .ok o) ↔
          1 ≤ l.toInt ∧ 0 ≤ b.toInt
            ∧ ∃ u : Options, u.Carries l.toInt b.toInt ∧ ∃ g, Gate.ofOptions u = .ok g)
        ∧ (∀ u : Options, u.Carries l.toInt b.toInt →
            ((∃ o, Options.ofSigned l b t = .ok o) ↔ ∃ g, Gate.ofOptions u = .ok g))
        ∧ (∀ o, Options.ofSigned l b t = .ok o →
            o.Carries l.toInt b.toInt ∧ o.wait = t ∧ ∃ g, Gate.ofOptions o = .ok g)
        ∧ (∀ e, Options.ofSigned l b t = .error e →
            e = if l.toInt ≤ 0 then .limitNotPositive l.toInt
              else if b.toInt < 0 then .backlogNegative b.toInt
              else .sumTooLarge))
    ∧ (∀ s : GateSettings,
      ((∃ o, s.toOptions = .ok o) ↔
          (∃ o, Options.ofSigned s.limit s.backlogLimit s.wait = .ok o)
            ∧ (s.statusCode.toNat = 0 ∨ (100 ≤ s.statusCode.toNat ∧ s.statusCode.toNat ≤ 999)))
        ∧ (∀ o, s.toOptions = .ok o →
            o.Carries s.limit.toInt s.backlogLimit.toInt ∧ o.wait = s.wait
              ∧ ∃ g, Gate.ofOptions o = .ok g)
        ∧ (∀ e, Options.ofSigned s.limit s.backlogLimit s.wait = .error e →
            s.toOptions = .error e)
        ∧ (∀ e, s.toOptions = .error e →
            (∃ o, Options.ofSigned s.limit s.backlogLimit s.wait = .ok o) →
            e = .invalidStatus s.statusCode.toNat)) := by
  refine ⟨fun o => ⟨?_, ?_, ?_, ?_⟩, fun l b t => ⟨?_, ?_, ?_, ?_⟩, fun s => ⟨?_, ?_, ?_, ?_⟩⟩
  -- words
  · rw [o.carries_self.exists_gate_iff, limitFault?_eq_none_iff]
    omega
  · exact fun g hg => Gate.exactly_of_ofOptions hg
  · intro e he
    rw [Gate.ofOptions_eq, judged_eq_error_iff] at he
    rw [eq_of_limitFault? he, if_neg (show ¬(o.backlogLimit.toNat : Int) < 0 by omega)]
    by_cases hzero : o.limit.toNat = 0
    · rw [if_pos hzero, if_pos (show (o.limit.toNat : Int) ≤ 0 by omega), hzero]
      rfl
    · rw [if_neg hzero, if_neg (show ¬(o.limit.toNat : Int) ≤ 0 by omega)]
  · exact Options.capacity?_of_validate
  -- signed numbers
  · rw [Options.exists_ofSigned_iff]
    constructor
    · intro hfault
      obtain ⟨hl, hb, -⟩ := limitFault?_eq_none_iff.mp hfault
      have hcarries := Options.carries_words l b (by omega) hb t
      exact ⟨hl, hb, _, hcarries, hcarries.exists_gate_iff.mpr hfault⟩
    · rintro ⟨-, -, u, hcarries, hgate⟩
      exact hcarries.exists_gate_iff.mp hgate
  · intro u hcarries
    rw [Options.exists_ofSigned_iff, hcarries.exists_gate_iff]
  · intro o ho
    rw [Options.ofSigned_eq, judged_eq_ok_iff] at ho
    obtain ⟨hfault, rfl⟩ := ho
    obtain ⟨hcarries, hgate⟩ := Options.carries_of_fault hfault
      (o := (Options.ofLimit l.toUInt64).withBacklog b.toUInt64 t) rfl rfl
    exact ⟨hcarries, rfl, hgate⟩
  · intro e he
    rw [Options.ofSigned_eq, judged_eq_error_iff] at he
    exact eq_of_limitFault? he
  -- settings
  · rw [s.exists_options_iff, Options.exists_ofSigned_iff, s.isSome_status?_iff]
  · intro o ho
    obtain ⟨hfault, hstatus⟩ := s.exists_options_iff.mp ⟨o, ho⟩
    obtain ⟨status, hs⟩ := Option.isSome_iff_exists.mp hstatus
    rw [GateSettings.toOptions_eq, hfault, hs] at ho
    cases ho
    obtain ⟨hcarries, hgate⟩ := Options.carries_of_fault hfault
      (o := s.optionsWith status) rfl rfl
    exact ⟨hcarries, rfl, hgate⟩
  · intro e he
    rw [Options.ofSigned_eq, judged_eq_error_iff] at he
    rw [GateSettings.toOptions_eq, he]
  · intro e he hsigned
    rw [Options.exists_ofSigned_iff] at hsigned
    rw [GateSettings.toOptions_eq, hsigned] at he
    cases hs : s.status? with
    | some status => rw [hs] at he; cases he
    | none => rw [hs] at he; exact (Except.error.inj he).symm

/-- All permits of a pool as one limit; a sum that is no word; the lowest numbers of a sign; and a
status that hides behind a limit of 0. -/
theorem limits_exact_and_agree_at_the_ends :
    (∃ g, Gate.ofOptions (.ofLimit 2305843009213693951) = .ok g
        ∧ g.snapshot.backlogCapacity.toNat = 2305843009213693951)
      ∧ (¬∃ g, Gate.ofOptions ((Options.ofLimit 18446744073709551615).withBacklog
          18446744073709551615 .unbounded) = .ok g)
      ∧ (∀ e, Options.ofSigned (-9223372036854775808) (-1) .unbounded = .error e →
          e = .limitNotPositive (-9223372036854775808))
      ∧ { GateSettings.standard with limit := 0, statusCode := 1000 }.toOptions
          = .error (.limitNotPositive 0) := by
  obtain ⟨words, signed, settings⟩ := limits_exact_and_agree
  refine ⟨?_, ?_, ?_, ?_⟩
  · obtain ⟨accepts, exactly, -, -⟩ := words (.ofLimit 2305843009213693951)
    obtain ⟨g, hg⟩ := accepts.mpr (by decide +kernel)
    have hexact := exactly g hg
    exact ⟨g, hg, hexact.shown.2.trans hexact.capacity⟩
  · obtain ⟨accepts, -, -, -⟩ := words ((Options.ofLimit 18446744073709551615).withBacklog
      18446744073709551615 .unbounded)
    rw [accepts]
    decide +kernel
  · intro e he
    exact ((signed _ _ _).2.2.2 e he).trans (by decide +kernel)
  · exact (settings { GateSettings.standard with limit := 0, statusCode := 1000 }).2.2.1 _ rfl

end Admission

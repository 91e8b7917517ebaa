/-
  Admission.Proofs.Config.Bounds — which numbers a gate can be built from.

  Options are looked at in two places: as signed numbers when settings are checked, and as words when
  the gate is built.  Both draw the same line, so whatever passes the first check passes the second.

  Main results:
    * `Options.validate_eq_ok_iff` — what a gate asks of its options;
    * `Options.ofSigned_eq_ok_iff` — what is asked of signed numbers;
    * `GateSettings.exists_toOptions_iff` — **what is asked of settings**;
    * `GateSettings.Terms` — what the options of settings carry.
-/
import Admission.Config.Settings
import Admission.Proofs.Gate.World

namespace Admission

/-! ## §1. Options. -/

namespace Options

/-- **WHAT A GATE ASKS OF ITS OPTIONS**: somebody may run, and one pool can hold all permits. -/
theorem validate_eq_ok_iff (o : Options) :
    o.validate = .ok () ↔ 0 < o.limit.toNat ∧ o.limit.toNat + o.backlogLimit.toNat ≤ maxPermits := by
  have hzero : o.limit = 0 ↔ o.limit.toNat = 0 := UInt64.toNat_inj.symm
  have hword : maxPermits ≤ maxWord := by decide
  unfold validate capacity?
  by_cases hl : o.limit = 0
  · rw [if_pos hl]
    have := hzero.mp hl
    constructor
    · nofun
    · omega
  · have hpos : o.limit.toNat ≠ 0 := fun h => hl (hzero.mpr h)
    rw [if_neg hl]
    simp only
    by_cases hsum : o.limit.toNat + o.backlogLimit.toNat ≤ maxWord
    · rw [if_pos hsum]
      simp only
      split
      next hle => exact ⟨fun _ => ⟨by omega, hle⟩, fun _ => rfl⟩
      next hle => exact ⟨nofun, fun h => absurd h.2 hle⟩
    · rw [if_neg hsum]
      constructor
      · nofun
      · omega

/-- A signed number that is not negative is the same number as a word. -/
theorem toNat_toUInt64 {n : Int64} (h : 0 ≤ n.toInt) : (n.toUInt64.toNat : Int) = n.toInt := by
  have hint : n.toInt = n.toBitVec.toInt := rfl
  have hnat : n.toUInt64.toNat = n.toBitVec.toNat := rfl
  have hcond := n.toBitVec.toInt_eq_toNat_cond
  omega

/-- **WHAT IS ASKED OF SIGNED NUMBERS** is the same. -/
theorem ofSigned_eq_ok_iff {limit backlogLimit : Int64} {wait : BacklogWait} {o : Options} :
    ofSigned limit backlogLimit wait = .ok o ↔
      0 < limit.toInt ∧ 0 ≤ backlogLimit.toInt
        ∧ limit.toInt + backlogLimit.toInt ≤ maxPermits
        ∧ o = (ofLimit limit.toUInt64).withBacklog backlogLimit.toUInt64 wait := by
  unfold ofSigned
  by_cases hl : limit.toInt ≤ 0
  · rw [if_pos hl]
    exact ⟨nofun, fun h => absurd h.1 (by omega)⟩
  by_cases hb : backlogLimit.toInt < 0
  · rw [if_neg hl, if_pos hb]
    exact ⟨nofun, fun h => absurd h.2.1 (by omega)⟩
  rw [if_neg hl, if_neg hb]
  -- neither is negative now, so as words they are the same numbers
  have hlimit := toNat_toUInt64 (n := limit) (by omega)
  have hbacklog := toNat_toUInt64 (n := backlogLimit) (by omega)
  have hvalid := validate_eq_ok_iff ((ofLimit limit.toUInt64).withBacklog backlogLimit.toUInt64 wait)
  have hsum : 0 < limit.toUInt64.toNat
      ∧ limit.toUInt64.toNat + backlogLimit.toUInt64.toNat ≤ maxPermits
      ↔ limit.toInt + backlogLimit.toInt ≤ maxPermits := by omega
  rw [show ((ofLimit limit.toUInt64).withBacklog backlogLimit.toUInt64 wait).limit
      = limit.toUInt64 from rfl,
    show ((ofLimit limit.toUInt64).withBacklog backlogLimit.toUInt64 wait).backlogLimit
      = backlogLimit.toUInt64 from rfl, hsum] at hvalid
  simp only
  split
  next hok =>
    constructor
    · intro h
      exact ⟨by omega, by omega, hvalid.mp hok, (Except.ok.inj h).symm⟩
    · rintro ⟨-, -, -, rfl⟩
      rfl
  next e he =>
    constructor
    · nofun
    · rintro ⟨-, -, hle, -⟩
      rw [hvalid.mpr hle] at he
      cases he

end Options

/-- A gate can be built from whatever passes its check. -/
theorem Gate.exists_ofOptions {o : Options} (h : o.validate = .ok ()) :
    ∃ g, Gate.ofOptions o = .ok g := by
  have hle := ((Options.validate_eq_ok_iff o).mp h).2
  have hcap : o.capacity? = some (o.limit.toNat + o.backlogLimit.toNat) := by
    unfold Options.capacity?
    exact if_pos (Nat.le_trans hle (by decide))
  refine ⟨.ofLimits o.limit.toNat (o.limit.toNat + o.backlogLimit.toNat) o.wait, ?_⟩
  unfold Gate.ofOptions
  rw [h, hcap]

/-! ## §2. Settings of the gate. -/

namespace Config.GateSettings

/-- **WHAT IS ASKED OF THE SETTINGS OF A GATE.** -/
structure Acceptable (s : GateSettings) : Prop where
  limit : 0 < s.limit.toInt
  backlogLimit : 0 ≤ s.backlogLimit.toInt
  sum : s.limit.toInt + s.backlogLimit.toInt ≤ Options.maxPermits
  /-- A status has three digits, or is left to the default. -/
  statusCode : s.statusCode = 0 ∨ (100 ≤ s.statusCode.toNat ∧ s.statusCode.toNat ≤ 999)

/-- What the options of settings carry: the same numbers, the wait, and the advice. -/
structure Terms (s : GateSettings) (o : Options) : Prop where
  limit : (o.limit.toNat : Int) = s.limit.toInt
  backlogLimit : (o.backlogLimit.toNat : Int) = s.backlogLimit.toInt
  wait : o.wait = s.wait
  valid : o.validate = .ok ()

theorem terms_of_ofSigned {s : GateSettings} {o : Options}
    (h : Options.ofSigned s.limit s.backlogLimit s.wait = .ok o) : Terms s o := by
  obtain ⟨hl, hb, hsum, rfl⟩ := Options.ofSigned_eq_ok_iff.mp h
  have hlimit := Options.toNat_toUInt64 (n := s.limit) (by omega)
  have hbacklog := Options.toNat_toUInt64 hb
  refine ⟨hlimit, hbacklog, rfl, (Options.validate_eq_ok_iff _).mpr ?_⟩
  show 0 < s.limit.toUInt64.toNat ∧ s.limit.toUInt64.toNat + s.backlogLimit.toUInt64.toNat ≤ _
  omega

/-- Neither the advice nor the status is among the terms. -/
theorem Terms.of_same {s : GateSettings} {o o' : Options} (h : Terms s o)
    (hl : o'.limit = o.limit) (hb : o'.backlogLimit = o.backlogLimit) (hw : o'.wait = o.wait) :
    Terms s o' := by
  have hvalid := (Options.validate_eq_ok_iff o).mp h.valid
  refine ⟨hl ▸ h.limit, hb ▸ h.backlogLimit, hw.trans h.wait,
    (Options.validate_eq_ok_iff o').mpr ?_⟩
  rw [hl, hb]
  exact hvalid

/-- **THE OPTIONS OF SETTINGS** carry their terms. -/
theorem terms_of_toOptions {s : GateSettings} {o : Options} (h : s.toOptions = .ok o) :
    Terms s o := by
  unfold toOptions at h
  split at h
  next e he => cases h
  next o₀ hsigned =>
    have hterms := terms_of_ofSigned hsigned
    simp only at h
    split at h
    next =>
      cases h
      exact hterms.of_same rfl rfl rfl
    next =>
      split at h
      next status hs =>
        cases h
        exact hterms.of_same rfl rfl rfl
      next => cases h

/-- **WHAT IS ASKED OF SETTINGS.** -/
theorem exists_toOptions_iff (s : GateSettings) : (∃ o, s.toOptions = .ok o) ↔ s.Acceptable := by
  have hstatus : (Status.ofNat? s.statusCode.toNat).isSome
      ↔ 100 ≤ s.statusCode.toNat ∧ s.statusCode.toNat ≤ 999 := Status.ofNat?_isSome
  unfold toOptions
  cases hsigned : Options.ofSigned s.limit s.backlogLimit s.wait with
  | error e =>
      constructor
      · nofun
      · intro h
        have hok : Options.ofSigned s.limit s.backlogLimit s.wait = .ok _ :=
          Options.ofSigned_eq_ok_iff.mpr ⟨h.limit, h.backlogLimit, h.sum, rfl⟩
        rw [hsigned] at hok
        cases hok
  | ok o =>
      obtain ⟨hl, hb, hsum, -⟩ := Options.ofSigned_eq_ok_iff.mp hsigned
      by_cases hzero : s.statusCode = 0
      · -- zero stands for the status of the standard answer
        simp only [if_pos hzero]
        exact ⟨fun _ => ⟨hl, hb, hsum, .inl hzero⟩, fun _ => ⟨_, rfl⟩⟩
      · simp only [if_neg hzero]
        cases hs : Status.ofNat? s.statusCode.toNat with
        | none =>
            rw [hs] at hstatus
            constructor
            · nofun
            · intro h
              have hcode := hstatus.mpr (h.statusCode.resolve_left hzero)
              cases hcode
        | some status =>
            rw [hs] at hstatus
            exact ⟨fun _ => ⟨hl, hb, hsum, .inr (hstatus.mp rfl)⟩, fun _ => ⟨_, rfl⟩⟩

end Config.GateSettings

end Admission

/-
  Admission.Proofs.Numeral — numbers written in decimal are read as they are.

  A number is written with digits, zeros in front of them or not, behind a sign or none.  Reading goes
  from the left and stops at the first value past its width, so what has to be shown is that no value
  on the way is farther from zero than the number itself.

  Main results:
    * `read_of_writes` — **every text that writes a number is read as that number**, over the whole of
      a width with negative numbers;
    * `writes_render` — the text that a number is shown as writes it.
-/
import Admission.Numeral

namespace Admission.Numeral

/-! ## §1. Texts that write a number. -/

/-- One digit or more. -/
def Digits (ds : List Char) : Prop := ds ≠ [] ∧ ∀ c ∈ ds, c.isDigit = true

/-- **THE TEXT WRITES THE NUMBER IN DECIMAL**: digits, and a sign in front of them or none. -/
inductive Writes (s : String) : Int → Prop where
  | bare (ds : List Char) (digits : Digits ds) (text : s.toList = ds) :
    Writes s (Nat.ofDigitChars 10 ds 0)
  | plus (ds : List Char) (digits : Digits ds) (text : s.toList = '+' :: ds) :
    Writes s (Nat.ofDigitChars 10 ds 0)
  | minus (ds : List Char) (digits : Digits ds) (text : s.toList = '-' :: ds) :
    Writes s (-(Nat.ofDigitChars 10 ds 0))

/-- Digits begin with one, which is no sign. -/
theorem Digits.exists_cons {ds : List Char} (h : Digits ds) :
    ∃ c r, ds = c :: r ∧ c ≠ '+' ∧ c ≠ '-' := by
  obtain ⟨hne, hds⟩ := h
  cases ds with
  | nil => exact absurd rfl hne
  | cons c r =>
      have hc : c.isDigit = true := hds c List.mem_cons_self
      refine ⟨c, r, rfl, ?_, ?_⟩
      · rintro rfl
        cases hc
      · rintro rfl
        cases hc

theorem digits_toDigits (n : Nat) : Digits (Nat.toDigits 10 n) :=
  ⟨Nat.toDigits_ne_nil, fun _ hc => Nat.isDigit_of_mem_toDigits (by decide) (by decide) hc⟩

/-- **THE TEXT THAT A NUMBER IS SHOWN AS** writes it. -/
theorem writes_render (n : Int) : Writes (render n) n := by
  have hdigits := digits_toDigits n.natAbs
  have hvalue : Nat.ofDigitChars 10 (Nat.toDigits 10 n.natAbs) 0 = n.natAbs :=
    Nat.ofDigitChars_ten_toDigits
  have hshown : (toString n.natAbs).toList = Nat.toDigits 10 n.natAbs := by
    rw [Nat.toString_eq_ofList_toDigits, String.toList_ofList]
  by_cases hn : n < 0
  · have htext : (render n).toList = '-' :: Nat.toDigits 10 n.natAbs := by
      rw [render, if_pos hn, String.toList_append, hshown]
      rfl
    have hwrites := Writes.minus _ hdigits htext
    rwa [hvalue, show -(n.natAbs : Int) = n by omega] at hwrites
  · have htext : (render n).toList = Nat.toDigits 10 n.natAbs := by
      rw [render, if_neg hn, hshown]
    have hwrites := Writes.bare _ hdigits htext
    rwa [hvalue, show (n.natAbs : Int) = n by omega] at hwrites

/-- An integer is shown as it always is. -/
theorem render_eq_toString (n : Int) : render n = toString n := by
  cases n with
  | ofNat m => rfl
  | negSucc m => exact if_pos (Int.negSucc_lt_zero m)

/-! ## §2. Reading from the left. -/

/-- More digits make no smaller number. -/
theorem le_ofDigitChars (ds : List Char) (a : Nat) : a ≤ Nat.ofDigitChars 10 ds a := by
  induction ds generalizing a with
  | nil => exact Nat.le_refl a
  | cons c ds ih =>
      rw [Nat.ofDigitChars_cons]
      exact Nat.le_trans (by omega) (ih _)

/-- The integer with this sign and this distance from zero. -/
def signed (negative : Bool) (n : Nat) : Int := if negative then -n else n

/-- The width holds numbers on both sides of zero. -/
def Straddles (w : Width) : Prop := w.low < 0 ∧ 0 ≤ w.high

/-- A width that holds a number holds those between it and zero. -/
theorem contains_of_le {w : Width} (hw : Straddles w) {negative : Bool} {m n : Nat} (hmn : m ≤ n)
    (h : w.contains (signed negative n) = true) : w.contains (signed negative m) = true := by
  obtain ⟨hlow, hhigh⟩ := hw
  unfold Width.contains signed at h ⊢
  simp only [Bool.and_eq_true, decide_eq_true_eq] at h ⊢
  cases negative
  · simp only [Bool.false_eq_true, if_false] at h ⊢
    omega
  · simp only [if_true] at h ⊢
    omega

/-- **DIGITS FROM THE LEFT** come to their number, if the width holds it. -/
theorem readDigits_of_contains {w : Width} (hw : Straddles w) (negative : Bool) {ds : List Char}
    (hds : ∀ c ∈ ds, c.isDigit = true) {a : Nat}
    (h : w.contains (signed negative (Nat.ofDigitChars 10 ds a)) = true) :
    readDigits w negative (signed negative a) ds
      = .ok (signed negative (Nat.ofDigitChars 10 ds a)) := by
  -- along the digits: what they come to bounds each value on the way
  induction ds generalizing a with
  | nil => rfl
  | cons c ds ih =>
      rw [Nat.ofDigitChars_cons] at h ⊢
      have hnext : (if negative then signed negative a * 10 - (Text.digitValue c : Int)
          else signed negative a * 10 + (Text.digitValue c : Int))
          = signed negative (10 * a + (c.toNat - '0'.toNat)) := by
        unfold signed Text.digitValue
        cases negative
        · simp only [Bool.false_eq_true, if_false]
          omega
        · simp only [if_true]
          omega
      have hfits := contains_of_le hw (le_ofDigitChars ds _) h
      unfold Width.contains at hfits
      simp only [Bool.and_eq_true, decide_eq_true_eq] at hfits
      unfold readDigits
      rw [if_pos (hds c List.mem_cons_self)]
      simp only [hnext]
      rw [if_neg (by omega), if_neg (by omega)]
      exact ih (fun d hd => hds d (List.mem_cons_of_mem c hd)) h

/-- **EVERY TEXT THAT WRITES A NUMBER IS READ AS THAT NUMBER**, by a width that holds it. -/
theorem read_of_writes {w : Width} (hw : Straddles w) {s : String} {n : Int} (h : Writes s n)
    (hn : w.contains n = true) : read w s = .ok n := by
  have hsigned : w.isUnsigned = false := by
    unfold Width.isUnsigned
    exact decide_eq_false (by have := hw.1; omega)
  unfold read
  cases h with
  | bare ds digits text =>
      obtain ⟨c, r, rfl, hplus, hminus⟩ := digits.exists_cons
      rw [text]
      -- a digit is no sign, so nothing is split off
      have hsplit : splitSign w (c :: r) = (false, c :: r) := by
        unfold splitSign
        split <;> simp_all
      simp only [hsplit]
      exact readDigits_of_contains hw false digits.2 hn
  | plus ds digits text =>
      obtain ⟨c, r, rfl, -, -⟩ := digits.exists_cons
      rw [text]
      exact readDigits_of_contains hw false digits.2 hn
  | minus ds digits text =>
      obtain ⟨c, r, rfl, -, -⟩ := digits.exists_cons
      rw [text]
      have hsplit : splitSign w ('-' :: c :: r) = (true, c :: r) := by
        show (if w.isUnsigned = true then _ else _) = _
        rw [hsigned]
        rfl
      simp only [hsplit]
      exact readDigits_of_contains hw true digits.2 hn

end Admission.Numeral

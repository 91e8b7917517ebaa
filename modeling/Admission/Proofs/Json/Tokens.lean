/-
  Admission.Proofs.Json.Tokens — what is written is read: blanks, texts and integers.

  Each scan takes what is left of a text.  So each lemma says what a scan yields where the written
  form of a token stands in front of ANY rest, provided that the rest does not go on with the token:
  an integer must not be followed by what could belong to a number, and a text closes itself.

  Main results:
    * `scanText_escape` — a text between quotes is read as it was, whatever its characters;
    * `scanInteger_integerChars` — an integer is read as it was, over the whole range of its width.
-/
import Admission.Json.Shape
import Admission.Proofs.Numeral

namespace Admission.Json

/-! ## §1. Blanks. -/

/-- The characters are blanks. -/
def Blanks (w : List Char) : Prop := ∀ c ∈ w, isBlank c = true

theorem blanks_nil : Blanks [] := by
  intro c hc
  cases hc

theorem Blanks.append {w w' : List Char} (h : Blanks w) (h' : Blanks w') : Blanks (w ++ w') := by
  intro c hc
  exact (List.mem_append.mp hc).elim (h c) (h' c)

theorem skipBlanks_append {w : List Char} (h : Blanks w) (r : List Char) :
    skipBlanks (w ++ r) = skipBlanks r := by
  unfold skipBlanks
  induction w with
  | nil => rfl
  | cons c w ih =>
      rw [List.cons_append, List.dropWhile_cons_of_pos (h c List.mem_cons_self)]
      exact ih fun d hd => h d (List.mem_cons_of_mem c hd)

theorem skipBlanks_cons {c : Char} (h : isBlank c = false) (r : List Char) :
    skipBlanks (c :: r) = c :: r :=
  List.dropWhile_cons_of_neg (by simp [h])

/-- Blanks and nothing else. -/
theorem Blanks.skipBlanks {w : List Char} (h : Blanks w) : skipBlanks w = [] := by
  rw [← List.append_nil w, skipBlanks_append h]
  rfl

/-! ## §2. Texts. -/

/-- The digits of an escape are digits, of a byte each. -/
theorem hexValue?_digitChar : ∀ n < 16, Text.hexValue? (Nat.digitChar n) = some n
    ∧ (Nat.digitChar n).utf8Size = 1 := by
  decide

/-- A digit of an escape that is not its last one, -/
theorem textBody_hex_of_lt {lead : Option Nat} {left value d : Nat} {c : Char}
    (hc : Text.hexValue? c = some d) (h : 1 < left) (r : List Char) :
    textBody true (.hex lead left value) (c :: r)
      = textBody true (.hex lead (left - 1) (value * 16 + d)) r := by
  conv => lhs; unfold textBody
  simp only [hc]
  rw [if_pos h]

/-- and its last one, where the digits stand for a character. -/
theorem textBody_hex_of_last {lead : Option Nat} {value d : Nat} {c e : Char}
    (hc : Text.hexValue? c = some d) (he : unit16 true lead (value * 16 + d) = .char e)
    (r : List Char) :
    textBody true (.hex lead 1 value) (c :: r) = consChar e (textBody true .plain r) := by
  conv => lhs; unfold textBody
  simp only [hc]
  rw [if_neg (Nat.lt_irrefl 1), he]

/-- The escape of a control character by its number. -/
theorem textBody_control {n : Nat} (h : n < 32) (r : List Char) :
    textBody true .plain
        ('\\' :: 'u' :: '0' :: '0' :: Nat.digitChar (n / 16) :: Nat.digitChar (n % 16) :: r)
      = consChar (Char.ofNat n) (textBody true .plain r) := by
  obtain ⟨hhigh, hsize⟩ := hexValue?_digitChar (n / 16) (by omega)
  obtain ⟨hlow, hsize'⟩ := hexValue?_digitChar (n % 16) (by omega)
  generalize Nat.digitChar (n / 16) = high at hhigh hsize ⊢
  generalize Nat.digitChar (n % 16) = low at hlow hsize' ⊢
  -- the scan looks for four bytes before it takes a digit
  have hbytes : hasBytes 4 ('0' :: '0' :: high :: low :: r) = true := by
    show hasBytes (2 - high.utf8Size) (low :: r) = true
    rw [hsize]
    show hasBytes (1 - low.utf8Size) r = true
    rw [hsize']
    cases r <;> rfl
  -- so small a number is no surrogate, and stands for a character by itself
  have hunit : unit16 true none ((0 * 16 + n / 16) * 16 + n % 16) = .char (Char.ofNat n) := by
    rw [show (0 * 16 + n / 16) * 16 + n % 16 = n by omega]
    unfold unit16
    simp only [Bool.not_true, Bool.false_eq_true, if_false]
    rw [if_neg (by omega), if_neg (by omega)]
  show (if hasBytes 4 ('0' :: '0' :: high :: low :: r) = true then
    textBody true (.hex none 4 0) ('0' :: '0' :: high :: low :: r) else _) = _
  rw [if_pos hbytes]
  show textBody true (.hex none 2 0) (high :: low :: r) = _
  rw [textBody_hex_of_lt hhigh (Nat.lt_succ_self 1)]
  exact textBody_hex_of_last hlow hunit r

/-- **ONE CHARACTER OF A TEXT** is read as it was. -/
theorem textBody_escapeChar (c : Char) (r : List Char) :
    textBody true .plain (escapeChar c ++ r) = consChar c (textBody true .plain r) := by
  unfold escapeChar
  -- the characters with an escape of their own, then the other control characters, then the rest
  by_cases hquote : c = '"'
  · subst hquote
    rfl
  by_cases hslash : c = '\\'
  · subst hslash
    rfl
  by_cases hback : c = '\x08'
  · subst hback
    rfl
  by_cases htab : c = '\t'
  · subst htab
    rfl
  by_cases hline : c = '\n'
  · subst hline
    rfl
  by_cases hpage : c = '\x0c'
  · subst hpage
    rfl
  by_cases hreturn : c = '\r'
  · subst hreturn
    rfl
  simp only [hquote, hslash, hback, htab, hline, hpage, hreturn, if_false]
  split
  next hcontrol =>
    have hread := textBody_control hcontrol r
    rwa [Char.ofNat_toNat] at hread
  next hplain =>
    show textBody true .plain (c :: r) = _
    conv => lhs; unfold textBody
    rw [if_neg hquote, if_neg hslash, if_neg hplain]

/-- A text is read up to its closing quote. -/
theorem textBody_flatMap (cs r : List Char) :
    textBody true .plain (cs.flatMap escapeChar ++ '"' :: r) = .ok (cs, r) := by
  induction cs with
  | nil => rfl
  | cons c cs ih =>
      rw [List.flatMap_cons, List.append_assoc, textBody_escapeChar, ih]
      rfl

/-- **A TEXT BETWEEN QUOTES IS READ AS IT WAS**; the opening quote is not part of the scan. -/
theorem scanText_escape (s : String) (r : List Char) :
    scanText (s.toList.flatMap escapeChar ++ '"' :: r) = .ok (s, r) := by
  unfold scanText
  rw [textBody_flatMap]
  show Except.ok (String.ofList s.toList, r) = _
  rw [String.ofList_toList]

/-! ## §3. Integers. -/

/-- The rest of a text does not go on with a number. -/
def Apart (r : List Char) : Prop :=
  ∀ c r', r = c :: r' → c.isDigit = false ∧ c ≠ '.' ∧ c ≠ 'e' ∧ c ≠ 'E'

theorem apart_nil : Apart [] := nofun

theorem apart_cons {c : Char} (h : c.isDigit = false ∧ c ≠ '.' ∧ c ≠ 'e' ∧ c ≠ 'E')
    (r : List Char) : Apart (c :: r) := by
  rintro d r' he
  cases he
  exact h

theorem Blanks.apart_append {w r : List Char} (h : Blanks w) (hr : Apart r) : Apart (w ++ r) := by
  cases w with
  | nil => exact hr
  | cons c w =>
      refine apart_cons ?_ (w ++ r)
      have hc := h c List.mem_cons_self
      unfold isBlank at hc
      simp only [Bool.or_eq_true, beq_iff_eq] at hc
      rcases hc with ((rfl | rfl) | rfl) | rfl <;> decide

theorem Apart.startsWithDigit {r : List Char} (h : Apart r) : startsWithDigit r = false := by
  cases r with
  | nil => rfl
  | cons c r => exact (h c r rfl).1

/-- Digits are taken as long as their number stays a word. -/
theorem absorb_append {ds : List Char} (hds : ∀ c ∈ ds, c.isDigit = true) {r : List Char}
    (hr : Apart r) {a : Nat} (hle : Nat.ofDigitChars 10 ds a ≤ 18446744073709551615) :
    absorb a (ds ++ r) = (Nat.ofDigitChars 10 ds a, ds.length, r) := by
  -- along the digits: the number that they come to bounds each one on the way
  induction ds generalizing a with
  | nil =>
      cases r with
      | nil => rfl
      | cons c r =>
          show absorb a (c :: r) = (a, 0, c :: r)
          unfold absorb
          simp only [(hr c r rfl).1, Bool.false_and, Bool.false_eq_true, if_false]
  | cons c ds ih =>
      rw [Nat.ofDigitChars_cons] at hle ⊢
      have hnext : a * 10 + Text.digitValue c = 10 * a + (c.toNat - '0'.toNat) := by
        unfold Text.digitValue
        omega
      have hfits : a * 10 + Text.digitValue c ≤ Width.word64.high.toNat := by
        rw [hnext]
        exact Nat.le_trans (Numeral.le_ofDigitChars ds _) hle
      show absorb a (c :: (ds ++ r)) = _
      unfold absorb
      simp only [hds c List.mem_cons_self, hfits, decide_true, Bool.and_self, if_true]
      rw [hnext, ih (fun d hd => hds d (List.mem_cons_of_mem c hd)) hle]
      rfl

/-- A positive number does not begin with a zero. -/
theorem exists_toDigits {m : Nat} (h : 0 < m) :
    ∃ c ds, Nat.toDigits 10 m = c :: ds ∧ c ≠ '0' := by
  induction m using Nat.strongRecOn with
  | ind m ih =>
      by_cases hm : m < 10
      · refine ⟨Nat.digitChar m, [], Nat.toDigits_of_lt_base hm, ?_⟩
        rw [Ne, Nat.digitChar_eq_zero]
        omega
      · obtain ⟨c, ds, he, hc⟩ := ih (m / 10) (by omega) (by omega)
        exact ⟨c, ds ++ [Nat.digitChar (m % 10)],
          by rw [Nat.toDigits_of_base_le (by decide) (by omega), he, List.cons_append], hc⟩

theorem isDigit_of_mem_toDigits {m : Nat} {c : Char} (h : c ∈ Nat.toDigits 10 m) :
    c.isDigit = true :=
  Nat.isDigit_of_mem_toDigits (by decide) (by decide) h

/-- **THE DIGITS OF A WORD** are read as the word, -/
theorem scanNumber_toDigits (positive : Bool) {m : Nat} (hm : m ≤ 18446744073709551615)
    {r : List Char} (hr : Apart r) :
    scanNumber positive (Nat.toDigits 10 m ++ r) = finishNumber positive m r := by
  -- a zero stands alone, and any other number begins with another digit
  cases m with
  | zero =>
      show (if startsWithDigit r = true then _ else finishNumber positive 0 r) = _
      rw [hr.startsWithDigit, if_neg Bool.false_ne_true]
  | succ m =>
      obtain ⟨c, ds, he, hc⟩ := exists_toDigits (Nat.succ_pos m)
      have hdigits : ∀ d ∈ c :: ds, d.isDigit = true := fun d hd => isDigit_of_mem_toDigits (he ▸ hd)
      have hvalue : Nat.ofDigitChars 10 ds (Text.digitValue c) = m + 1 := by
        have hten := Nat.ofDigitChars_ten_toDigits (n := m + 1)
        rw [he, Nat.ofDigitChars_cons] at hten
        rw [← hten]
        exact congrArg (Nat.ofDigitChars 10 ds) (by unfold Text.digitValue; omega)
      have habsorb := absorb_append (fun d hd => hdigits d (List.mem_cons_of_mem c hd)) hr
        (Nat.le_trans (Nat.le_of_eq hvalue) hm)
      rw [he, List.cons_append]
      unfold scanNumber
      split
      next hnil => cases hnil
      next r' hzero => exact absurd (List.cons.inj hzero).1 hc
      next c' r' _ hcons =>
        obtain ⟨rfl, rfl⟩ := List.cons.inj hcons
        simp only [hdigits c List.mem_cons_self, Bool.not_true, Bool.false_eq_true, if_false,
          habsorb, hr.startsWithDigit, hvalue]

/-- and what follows them is not part of the number. -/
theorem finishNumber_of_apart (positive : Bool) (m : Nat) {r : List Char} (hr : Apart r) :
    finishNumber positive m r =
      if positive then .ok (.natural m, r)
      else if m == 0 || m > 9223372036854775808 then .ok (.float (-m.toUInt64.toFloat), r)
      else .ok (.negative (-(m : Int)), r) := by
  unfold finishNumber
  split
  next r' => exact absurd rfl (hr '.' r' rfl).2.1
  next r' => exact absurd rfl (hr 'e' r' rfl).2.2.1
  next r' => exact absurd rfl (hr 'E' r' rfl).2.2.2
  next => rfl

theorem Width.contains_iff {w : Width} {n : Int} : w.contains n = true ↔ w.low ≤ n ∧ n ≤ w.high := by
  unfold Width.contains
  simp

/-- A width whose integers can be read: it stays within the words of either kind. -/
def Width.IsReadable (w : Width) : Prop :=
  -9223372036854775808 ≤ w.low ∧ w.high ≤ 18446744073709551615

/-- **AN INTEGER IS READ AS IT WAS**, whatever of its width it is. -/
theorem scanInteger_integerChars {w : Width} (hw : Width.IsReadable w) (name : String) {n : Int}
    (hn : w.contains n = true) {r : List Char} (hr : Apart r) :
    scanInteger w name (integerChars n ++ r) = .ok (.integer n, r) := by
  unfold Width.IsReadable at hw
  have hbounds := Width.contains_iff.mp hn
  unfold integerChars
  by_cases hneg : n < 0
  · rw [if_pos hneg, List.cons_append]
    have hscan := scanNumber_toDigits false (m := n.natAbs) (by omega) hr
    rw [finishNumber_of_apart false n.natAbs hr, if_neg Bool.false_ne_true,
      if_neg (by simp; omega), show (-(n.natAbs : Int)) = n by omega] at hscan
    unfold scanInteger
    simp only [hscan, fitNumber, hn, if_true]
  · rw [if_neg hneg]
    have hscan := scanNumber_toDigits true (m := n.natAbs) (by omega) hr
    rw [finishNumber_of_apart true n.natAbs hr, if_pos rfl] at hscan
    obtain ⟨c, ds, he⟩ : ∃ c ds, Nat.toDigits 10 n.natAbs = c :: ds :=
      List.exists_cons_of_ne_nil Nat.toDigits_ne_nil
    have hc : c.isDigit = true := isDigit_of_mem_toDigits (he ▸ List.mem_cons_self)
    rw [he, List.cons_append] at hscan ⊢
    unfold scanInteger
    split
    next r' hminus =>
      rw [(List.cons.inj hminus).1] at hc
      cases hc
    next c' r' _ hcons =>
      obtain ⟨rfl, rfl⟩ := List.cons.inj hcons
      simp only [hc, if_true, hscan, fitNumber, Int.natAbs_of_nonneg (Int.not_lt.mp hneg), hn]
    next hnil => cases hnil

end Admission.Json

/-
  Admission.Numeral — decimal numerals read at a fixed width.

  A numeral is an optional sign and at least one ASCII digit, with nothing around it.  A width is the
  interval of integers that it can hold.  Reading fails with a CAUSE: nothing to read, a character
  that is no digit, or a value past either end of the width.
-/
import Admission.Text.Digit

namespace Admission

/-! ## §1. Widths. -/

/-- The integers from `low` to `high`. -/
structure Width where
  low : Int
  high : Int
deriving DecidableEq

namespace Width

def word16 : Width := ⟨0, 65535⟩
def word64 : Width := ⟨0, 18446744073709551615⟩
def int64 : Width := ⟨-9223372036854775808, 9223372036854775807⟩

/-- The width holds no negative number. -/
def isUnsigned (w : Width) : Bool := 0 ≤ w.low

def contains (w : Width) (n : Int) : Bool := w.low ≤ n && n ≤ w.high

end Width

/-! ## §2. Reading. -/

/-- Why a text is not a numeral of the width asked for. -/
inductive NumeralError where
  | empty
  | invalidDigit
  | tooLarge
  | tooSmall
deriving DecidableEq

/-- The wording of each cause. -/
def NumeralError.message : NumeralError → String
  | .empty => "cannot parse integer from empty string"
  | .invalidDigit => "invalid digit found in string"
  | .tooLarge => "number too large to fit in target type"
  | .tooSmall => "number too small to fit in target type"

namespace Numeral

/-- The sign a numeral starts with, and what follows it.  A sign alone is no sign but a bad digit,
and a minus belongs to a width with negative numbers. -/
def splitSign (w : Width) : List Char → Bool × List Char
  | ['+'] => (false, ['+'])
  | ['-'] => (false, ['-'])
  | '+' :: r => (false, r)
  | '-' :: r => if w.isUnsigned then (false, '-' :: r) else (true, r)
  | r => (false, r)

/-- Digits from the left: the first fault met decides, a bad digit or a value past the width. -/
def readDigits (w : Width) (negative : Bool) : Int → List Char → Except NumeralError Int
  | acc, [] => .ok acc
  | acc, c :: r =>
    if c.isDigit then
      let d : Int := Text.digitValue c
      let next := if negative then acc * 10 - d else acc * 10 + d
      if w.high < next then .error .tooLarge
      else if next < w.low then .error .tooSmall
      else readDigits w negative next r
    else .error .invalidDigit

/-- Reads a numeral of width `w`. -/
def read (w : Width) (s : String) : Except NumeralError Int :=
  match s.toList with
  | [] => .error .empty
  | cs =>
    let (negative, digits) := splitSign w cs
    readDigits w negative 0 digits

/-- The decimal text of an integer. -/
def render (n : Int) : String :=
  if n < 0 then "-" ++ toString n.natAbs else toString n.natAbs

end Numeral

end Admission

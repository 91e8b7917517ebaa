/-
  Admission.Toml.Scalar — numbers, moments and words of a settings text.

  An integer is decimal with an optional sign, or unsigned with `0x`, `0o` or `0b` in front, and fits
  64 bits.  A float has a fraction or an exponent, and reads as the nearest binary float; one that is
  too large to be finite is refused if it is positive.  Underscores may stand between digits.
-/
import Admission.Numeral
import Admission.Toml.Text
import Admission.Toml.Value

namespace Admission.Toml

/-! ## §1. Digits. -/

/-- Digits with underscores between them, after a first one: the digits and the rest. -/
def moreDigits (isDigit : Char → Bool) : List Char → Option (List Char × List Char)
  | [] => some ([], [])
  | ['_'] => none
  | '_' :: c :: r =>
    if isDigit c then do
      let (ds, r) ← moreDigits isDigit r
      some (c :: ds, r)
    else none
  | c :: r =>
    if isDigit c then do
      let (ds, r) ← moreDigits isDigit r
      some (c :: ds, r)
    else some ([], c :: r)

/-- At least one digit, with underscores between them. -/
def digitRun (isDigit : Char → Bool) : List Char → Option (List Char × List Char)
  | [] => none
  | c :: r =>
    if isDigit c then do
      let (ds, r) ← moreDigits isDigit r
      some (c :: ds, r)
    else none

/-- The integer digits of a decimal number: a single zero, or a run that starts with another digit. -/
def decimalDigits : List Char → Option (List Char × List Char)
  | '0' :: r => some (['0'], r)
  | cs => digitRun Char.isDigit cs

/-- A sign, if there is one: whether it is a minus, and the rest. -/
def takeSign : List Char → Bool × List Char
  | '-' :: r => (true, r)
  | '+' :: r => (false, r)
  | r => (false, r)

/-! ## §2. Integers and floats. -/

/-- An integer that fits 64 bits. -/
def fit64 (n : Int) : Option Value := if Width.int64.contains n then some (.integer n) else none

/-- An unsigned integer of a base that is not ten, after its mark. -/
def basedInteger (base : Nat) (isDigit : Char → Bool) (cs : List Char) : Option (Value × List Char) := do
  let (ds, r) ← digitRun isDigit cs
  some (← fit64 (Text.ofDigits base ds), r)

/-- The float nearest to `significand · 10 ^ exponent`, where the significand has `count` digits. -/
def nearestFloat (significand count : Nat) (exponent : Int) : Float :=
  if significand == 0 then 0.0
  else if 400 < exponent + count then 1.0 / 0.0
  else if exponent + count < -400 then 0.0
  else Float.ofScientific significand (exponent < 0) exponent.natAbs

/-- A float from its sign, its integer digits, its fraction and its exponent. -/
def makeFloat (negative : Bool) (whole fraction : List Char) (exponent : Int) : Option Value :=
  let ds := (whole ++ fraction).dropWhile (· == '0')
  let x := nearestFloat (Text.ofDigits 10 ds) ds.length (exponent - fraction.length)
  if negative then some (.float (-x))
  else if x.isInf then none
  else some (.float x)

/-- The exponent of a float after its mark. -/
def exponentPart (cs : List Char) : Option (Int × List Char) := do
  let (negative, r) := takeSign cs
  let (ds, r) ← digitRun Char.isDigit r
  let n : Int := Text.ofDigits 10 ds
  some (if negative then -n else n, r)

/-- A decimal number: a float if a fraction or an exponent follows its integer digits. -/
def decimalNumber (cs : List Char) : Option (Value × List Char) := do
  let (negative, r) := takeSign cs
  let (whole, r) ← decimalDigits r
  let withExponent (fraction r : List Char) : Option (Value × List Char) := do
    let (e, r) ← exponentPart r
    some (← makeFloat negative whole fraction e, r)
  match r with
  | 'e' :: r => withExponent [] r
  | 'E' :: r => withExponent [] r
  | '.' :: r =>
    let (fraction, r) ← digitRun Char.isDigit r
    match r with
    | 'e' :: r => withExponent fraction r
    | 'E' :: r => withExponent fraction r
    | r => some (← makeFloat negative whole fraction 0, r)
  | r =>
    let n : Int := Text.ofDigits 10 whole
    some (← fit64 (if negative then -n else n), r)

/-- A float that is no number, or infinite. -/
def specialFloat (cs : List Char) : Option (Value × List Char) :=
  let (negative, r) := takeSign cs
  let signed (x : Float) : Value := .float (if negative then -x else x)
  match r with
  | 'i' :: 'n' :: 'f' :: r => some (signed (1.0 / 0.0), r)
  | 'n' :: 'a' :: 'n' :: r => some (signed (0.0 / 0.0), r)
  | _ => none

def number : List Char → Option (Value × List Char)
  | '0' :: 'x' :: r => basedInteger 16 (fun c => (Text.hexValue? c).isSome) r
  | '0' :: 'o' :: r => basedInteger 8 (fun c => '0' ≤ c && c ≤ '7') r
  | '0' :: 'b' :: r => basedInteger 2 (fun c => c == '0' || c == '1') r
  | cs => specialFloat cs <|> decimalNumber cs

/-! ## §3. Moments. -/

/-- The number of exactly `n` decimal digits. -/
def fixedDigits : Nat → Nat → List Char → Option (Nat × List Char)
  | 0, acc, cs => some (acc, cs)
  | n + 1, acc, c :: r =>
    if c.isDigit then fixedDigits n (acc * 10 + Text.digitValue c) r else none
  | _ + 1, _, [] => none

/-- A number of two digits within bounds. -/
def twoDigits (low high : Nat) (cs : List Char) : Option (Nat × List Char) := do
  let (n, r) ← fixedDigits 2 0 cs
  if low ≤ n ∧ n ≤ high then some (n, r) else none

/-- The rest after a character that has to come next. -/
def mark (c : Char) : List Char → Option (List Char)
  | d :: r => if d = c then some r else none
  | [] => none

def isLeapYear (y : Nat) : Bool := y % 4 == 0 && (y % 100 != 0 || y % 400 == 0)

def daysOfMonth (year month : Nat) : Nat :=
  if month == 2 then (if isLeapYear year then 29 else 28)
  else if [4, 6, 9, 11].contains month then 30
  else 31

/-- The rest after a day of the calendar. -/
def date? (cs : List Char) : Option (List Char) := do
  let (year, r) ← fixedDigits 4 0 cs
  let (month, r) ← twoDigits 1 12 (← mark '-' r)
  let (_, r) ← twoDigits 1 (daysOfMonth year month) (← mark '-' r)
  some r

/-- The rest after a time of the day; a minute may have a leap second. -/
def time? (cs : List Char) : Option (List Char) := do
  let (_, r) ← twoDigits 0 23 cs
  let (_, r) ← twoDigits 0 59 (← mark ':' r)
  let (_, r) ← twoDigits 0 60 (← mark ':' r)
  match r with
  | '.' :: c :: t => if c.isDigit then some (t.dropWhile Char.isDigit) else some r
  | r => some r

/-- The rest after the offset of a time, if there is one. -/
def offset? : List Char → Option (List Char)
  | 'Z' :: r => some r
  | 'z' :: r => some r
  | '+' :: r => offsetTime r
  | '-' :: r => offsetTime r
  | r => some r
where
  offsetTime (cs : List Char) : Option (List Char) := do
    let (_, r) ← twoDigits 0 23 cs
    let (_, r) ← twoDigits 0 59 (← mark ':' r)
    some r

/-- The rest after a time that belongs to a date; without one the date stands alone. -/
def timeOfDate (cs : List Char) : Option (List Char) :=
  match cs with
  | c :: r =>
    if c == 'T' || c == 't' || c == ' ' then
      match time? r with
      | some r => offset? r
      | none => some cs
    else some cs
  | [] => some []

/-- A date, a date with a time, or a time alone. -/
def moment (cs : List Char) : Option (Value × List Char) :=
  match date? cs with
  | some r => do some (.moment, ← timeOfDate r)
  | none => do some (.moment, ← time? cs)

/-! ## §4. Scalars. -/

/-- A value that is neither an array nor a table. -/
def scalar (cs : List Char) : Option (Value × List Char) :=
  match cs with
  | '"' :: _ => do
    let (s, r) ← quotedText cs
    some (.text s, r)
  | '\'' :: _ => do
    let (s, r) ← quotedText cs
    some (.text s, r)
  | 't' :: 'r' :: 'u' :: 'e' :: r => some (.boolean true, r)
  | 'f' :: 'a' :: 'l' :: 's' :: 'e' :: r => some (.boolean false, r)
  | _ => moment cs <|> number cs

end Admission.Toml

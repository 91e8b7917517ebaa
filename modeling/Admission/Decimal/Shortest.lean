/-
  Admission.Decimal.Shortest — the fewest decimal digits that read back as a given binary float.

  A finite float is `m · 2^q`.  The reals that round to it form an interval around it, whose ends
  belong to it iff `m` is even.  For 1, 2, … 17 digits the two neighbours of the value on that
  decimal grid are tried, in exact arithmetic on naturals: the first grid with a hit wins, and of
  two hits the nearer one.
-/

namespace Admission.Decimal

/-! ## §1. Floats as exact numbers. -/

/-- A finite float, taken apart: the sign and `m · 2^q`, with the sign of `q` kept apart. -/
structure Parts where
  negative : Bool
  /-- The integer significand. -/
  significand : Nat
  /-- The exponent is this much above -1075. -/
  biased : Nat
  /-- The gap to the next float below is half the gap above. -/
  atBoundary : Bool

/-- What a float is. -/
inductive Kind where
  | infinite (negative : Bool)
  | notANumber
  | finite (p : Parts)

/-- Takes a float apart. -/
def kindOf (x : Float) : Kind :=
  let bits := x.toBits.toNat
  let negative := bits / Nat.pow 2 63 == 1
  let exponent := bits / Nat.pow 2 52 % Nat.pow 2 11
  let fraction := bits % Nat.pow 2 52
  if exponent == 2047 then (if fraction == 0 then .infinite negative else .notANumber)
  else if exponent == 0 then
    .finite { negative, significand := fraction, biased := 1, atBoundary := false }
  else
    .finite
      { negative, significand := fraction + Nat.pow 2 52, biased := exponent
        atBoundary := fraction == 0 && exponent > 1 }

/-! ## §2. The search. -/

/-- Decimal digits and the power of ten that they are multiplied by. -/
structure Digits where
  digits : Nat
  exponent : Int

/-- The number of decimal digits of a natural. -/
def width (n : Nat) : Nat := (Nat.toDigits 10 n).length

/-- The power of ten of the leading digit of `num / den`. -/
def leadingExponent (num den : Nat) : Int :=
  if den ≤ num then (width (num / den) : Int) - 1
  else
    let w := width (den / num)
    if den ≤ num * Nat.pow 10 (w - 1) then -((w : Int) - 1) else -(w : Int)

/-- `num / den` divided by `10 ^ e`, as a fraction again. -/
def scaleDown (num den : Nat) (e : Int) : Nat × Nat :=
  if 0 ≤ e then (num, den * Nat.pow 10 e.toNat) else (num * Nat.pow 10 (-e).toNat, den)

/-- The better of the two neighbours of `num / den` on the grid of `10 ^ e` that lie between
`low / den` and `high / den`. -/
def neighbour? (num low high den : Nat) (closed : Bool) (e : Int) : Option Nat :=
  let (n, d) := scaleDown num den e
  let (l, _) := scaleDown low den e
  let (h, _) := scaleDown high den e
  let within (k : Nat) : Bool :=
    if closed then l ≤ k * d && k * d ≤ h else l < k * d && k * d < h
  let below := n / d
  let above := below + 1
  match within below && below != 0, within above with
  | true, true =>
    let downGap := n - below * d
    let upGap := above * d - n
    if downGap < upGap then some below
    else if upGap < downGap then some above
    else if below % 2 == 0 then some below else some above
  | true, false => some below
  | false, true => some above
  | false, false => none

/-- Tries grids of one digit more each time. -/
def search (num low high den : Nat) (closed : Bool) : Nat → Int → Digits
  | 0, e => ⟨num / den, e⟩
  | tries + 1, e =>
    match neighbour? num low high den closed e with
    | some k => ⟨k, e⟩
    | none => search num low high den closed tries (e - 1)

/-- Drops trailing zeros of the digits. -/
def trim : Nat → Digits → Digits
  | 0, d => d
  | fuel + 1, d =>
    if d.digits != 0 && d.digits % 10 == 0 then trim fuel ⟨d.digits / 10, d.exponent + 1⟩ else d

/-- The shortest digits of a finite float that is not zero. -/
def shortest (p : Parts) : Digits :=
  let up := if 1075 ≤ p.biased then Nat.pow 2 (p.biased - 1075) else 1
  let down := if 1075 ≤ p.biased then 1 else Nat.pow 2 (1075 - p.biased)
  let num := 4 * p.significand * up
  let high := (4 * p.significand + 2) * up
  let low := (4 * p.significand - (if p.atBoundary then 1 else 2)) * up
  let den := 4 * down
  let lead := leadingExponent num den
  trim 20 (search num low high den (p.significand % 2 == 0) 17 lead)

/-! ## §3. Layouts. -/

/-- Digits `ds` with the point after `k` of them, where `0 < k` may exceed their number. -/
def placePoint (ds : List Char) (k : Nat) : List Char :=
  if ds.length ≤ k then ds ++ List.replicate (k - ds.length) '0' ++ ['.', '0']
  else ds.take k ++ '.' :: ds.drop k

/-- Positional notation of a number whose leading digit stands at `10 ^ lead`. -/
def positional (ds : List Char) (lead : Int) : List Char :=
  if 0 ≤ lead then placePoint ds (lead.toNat + 1)
  else ['0', '.'] ++ List.replicate ((-lead).toNat - 1) '0' ++ ds

/-- Scientific notation; the exponent always has a sign. -/
def scientific (ds : List Char) (lead : Int) : List Char :=
  let mantissa := match ds with
    | [d] => [d]
    | d :: r => d :: '.' :: r
    | [] => []
  mantissa ++ ['e', if lead < 0 then '-' else '+'] ++ Nat.toDigits 10 lead.natAbs

/-- How a finite float is laid out: the leading exponents that are written positionally. -/
structure Layout where
  /-- The smallest leading exponent that is written positionally; none at all if absent. -/
  lowest : Option Int
  highest : Option Int

/-- Always positional. -/
def Layout.plain : Layout := ⟨none, none⟩

/-- Positional from `10^-5` to `10^15`, scientific beyond. -/
def Layout.mixed : Layout := ⟨some (-5), some 15⟩

def Layout.isPositional (l : Layout) (lead : Int) : Bool :=
  (match l.lowest with | some a => a ≤ lead | none => true) &&
  (match l.highest with | some b => lead ≤ b | none => true)

/-- The text of a float in a layout; a whole number keeps a zero after the point. -/
def render (l : Layout) (x : Float) : String :=
  match kindOf x with
  | .notANumber => "NaN"
  | .infinite negative => if negative then "-inf" else "inf"
  | .finite p =>
    let sign := if p.negative then ['-'] else []
    if p.significand == 0 then String.ofList (sign ++ ['0', '.', '0'])
    else
      let d := shortest p
      let ds := Nat.toDigits 10 d.digits
      let lead := d.exponent + (ds.length : Int) - 1
      String.ofList (sign ++ if l.isPositional lead then positional ds lead else scientific ds lead)

end Admission.Decimal

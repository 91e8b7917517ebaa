/-
  Admission.Json.Scan — the tokens of a JSON text, read from left to right.

  A scan takes what is left of the text and gives a value and the rest, or the FIRST fault it meets:
  the text is malformed, it ended too early, or a value is not of the kind asked for.  A text, a
  number and a keyword are scanned here; so is a whole value whose content does not matter.
-/
import Admission.Mismatch
import Admission.Decimal.Shortest
import Admission.Numeral
import Admission.Text.Digit

namespace Admission.Json

/-! ## §1. Faults and blanks. -/

/-- Why a text cannot be read. -/
inductive Fault where
  | malformed
  | endOfInput
  | mismatch (m : Mismatch)
deriving DecidableEq

def isBlank (c : Char) : Bool := c == ' ' || c == '\n' || c == '\t' || c == '\r'

/-- The text from its first character that is no blank. -/
def skipBlanks (cs : List Char) : List Char := cs.dropWhile isBlank

/-- The fault of an unexpected character, or of an unexpected end. -/
def unexpected : List Char → Fault
  | [] => .endOfInput
  | _ :: _ => .malformed

/-- The rest of a text after the characters of a keyword. -/
def keyword : List Char → List Char → Except Fault (List Char)
  | [], r => .ok r
  | _ :: _, [] => .error .endOfInput
  | k :: ks, c :: r => if k = c then keyword ks r else .error .malformed

/-! ## §2. Texts. -/

/-- Where a scan stands within a text. -/
inductive TextState where
  | plain
  | afterBackslash
  /-- Within the four digits of an escape; `lead` is a leading surrogate that came before. -/
  | hex (lead : Option Nat) (left value : Nat)
  /-- After a leading surrogate. -/
  | afterLead (lead : Nat)
  | afterLeadBackslash (lead : Nat)

/-- The text holds at least `n` bytes. -/
def hasBytes : Nat → List Char → Bool
  | 0, _ => true
  | _ + 1, [] => false
  | n + 1, c :: r => hasBytes (n + 1 - c.utf8Size) r

/-- The character of an escape with one letter. -/
def escapeLetter? (c : Char) : Option Char :=
  if c = '"' then some '"'
  else if c = '\\' then some '\\'
  else if c = '/' then some '/'
  else if c = 'b' then some '\x08'
  else if c = 'f' then some '\x0c'
  else if c = 'n' then some '\n'
  else if c = 'r' then some '\r'
  else if c = 't' then some '\t'
  else none

/-- Puts a character in front of what a scan yields. -/
def consChar (c : Char) : Except Fault (List Char × List Char) → Except Fault (List Char × List Char)
  | .ok (s, r) => .ok (c :: s, r)
  | .error e => .error e

/-- What four hexadecimal digits mean where they end: a character, or a surrogate that needs its
other half.  A text that is read for nothing may hold halves. -/
inductive Unit16 where
  | char (c : Char)
  | lead (n : Nat)
  | nothing
  | bad

/-- Combines four hexadecimal digits with a leading surrogate before them. -/
def unit16 (strict : Bool) (lead : Option Nat) (n : Nat) : Unit16 :=
  if !strict then .nothing
  else match lead with
    | none =>
      if 0xDC00 ≤ n ∧ n ≤ 0xDFFF then .bad
      else if 0xD800 ≤ n ∧ n ≤ 0xDBFF then .lead n
      else .char (Char.ofNat n)
    | some h =>
      if 0xDC00 ≤ n ∧ n ≤ 0xDFFF then
        .char (Char.ofNat (0x10000 + (h - 0xD800) * 0x400 + (n - 0xDC00)))
      else .bad

/-- The text up to its closing quote.  A `strict` scan refuses halves of surrogate pairs. -/
def textBody (strict : Bool) : TextState → List Char → Except Fault (List Char × List Char)
  | _, [] => .error .endOfInput
  | .plain, c :: r =>
    if c = '"' then .ok ([], r)
    else if c = '\\' then textBody strict .afterBackslash r
    else if c.toNat < 32 then .error .malformed
    else consChar c (textBody strict .plain r)
  | .afterBackslash, c :: r =>
    if c = 'u' then
      if hasBytes 4 r then textBody strict (.hex none 4 0) r else .error .endOfInput
    else match escapeLetter? c with
      | some e => consChar e (textBody strict .plain r)
      | none => .error .malformed
  | .hex lead left value, c :: r =>
    match Text.hexValue? c with
    | none => .error .malformed
    | some d =>
      let value := value * 16 + d
      if 1 < left then textBody strict (.hex lead (left - 1) value) r
      else match unit16 strict lead value with
        | .char e => consChar e (textBody strict .plain r)
        | .lead h => textBody strict (.afterLead h) r
        | .nothing => textBody strict .plain r
        | .bad => .error .malformed
  | .afterLead lead, c :: r =>
    if c = '\\' then textBody strict (.afterLeadBackslash lead) r else .error .malformed
  | .afterLeadBackslash lead, c :: r =>
    if c = 'u' then
      if hasBytes 4 r then textBody strict (.hex (some lead) 4 0) r else .error .endOfInput
    else .error .malformed

/-- A text after its opening quote. -/
def scanText (cs : List Char) : Except Fault (String × List Char) :=
  match textBody true .plain cs with
  | .ok (s, r) => .ok (String.ofList s, r)
  | .error e => .error e

/-! ## §3. Numbers. -/

/-- A number as it was written. -/
inductive Number where
  | natural (n : Nat)
  | negative (n : Int)
  | float (x : Float)

/-- The number as it is named in a mismatch. -/
def Number.found : Number → Found
  | .natural n => .integer n
  | .negative n => .integer n
  | .float x => .float (Decimal.render .mixed x)

def startsWithDigit : List Char → Bool
  | c :: _ => c.isDigit
  | [] => false

/-- Appends digits to a significand as long as it stays a word: the significand, how many digits
were taken, and the rest. -/
def absorb (significand : Nat) : List Char → Nat × Nat × List Char
  | [] => (significand, 0, [])
  | c :: r =>
    let next := significand * 10 + Text.digitValue c
    if c.isDigit && next ≤ Width.word64.high.toNat then
      let (s, n, rest) := absorb next r
      (s, n + 1, rest)
    else (significand, 0, c :: r)

/-- `10 ^ n` as a float, for `n` up to 308. -/
def powerOfTen (n : Nat) : Float := Float.ofScientific 1 false n

/-- A significand times a power of ten, by one multiplication or division at a time; none if that is
beyond the floats. -/
def scaleFloat : Nat → Float → Int → Option Float
  | 0, f, _ => some f
  | steps + 1, f, e =>
    if e.natAbs ≤ 308 then
      if 0 ≤ e then
        let g := f * powerOfTen e.natAbs
        if g.isInf then none else some g
      else some (f / powerOfTen e.natAbs)
    else if f == 0.0 then some f
    else if 0 ≤ e then none
    else scaleFloat steps (f / powerOfTen 308) (e + 308)

/-- A float from its sign, significand and power of ten. -/
def makeFloat (positive : Bool) (significand : Nat) (e : Int) (r : List Char) : Except Fault (Number × List Char) :=
  match scaleFloat 8 significand.toUInt64.toFloat e with
  | none => .error .malformed
  | some f => .ok (.float (if positive then f else -f), r)

/-- The largest exponent that is counted. -/
def maxExponent : Nat := 2147483647

/-- Digits of an exponent: its value, unless it is too large to count, and the rest. -/
def exponentDigits : Nat → List Char → Option Nat × List Char
  | e, [] => (some e, [])
  | e, c :: r =>
    if c.isDigit then
      let next := e * 10 + Text.digitValue c
      if next ≤ maxExponent then exponentDigits next r else (none, r.dropWhile Char.isDigit)
    else (some e, c :: r)

/-- A number from its exponent's sign on. -/
def scanExponent (positive : Bool) (significand : Nat) (e : Int) (cs : List Char) :
    Except Fault (Number × List Char) :=
  let (up, cs) := match cs with
    | '+' :: r => (true, r)
    | '-' :: r => (false, r)
    | r => (true, r)
  match cs with
  | [] => .error .endOfInput
  | c :: r =>
    if !c.isDigit then .error .malformed
    else match exponentDigits (Text.digitValue c) r with
      | (some n, rest) =>
        makeFloat positive significand (if up then e + (n : Int) else e - (n : Int)) rest
      | (none, rest) =>
        if significand != 0 && up then .error .malformed
        else .ok (.float (if positive then 0.0 else -0.0), rest)

/-- What may follow the digits of a float. -/
def finishFloat (positive : Bool) (significand : Nat) (e : Int) : List Char → Except Fault (Number × List Char)
  | 'e' :: r => scanExponent positive significand e r
  | 'E' :: r => scanExponent positive significand e r
  | r => makeFloat positive significand e r

/-- A number from the digits after its point on. -/
def scanFraction (positive : Bool) (significand : Nat) (e : Int) (cs : List Char) :
    Except Fault (Number × List Char) :=
  let (s, n, r) := absorb significand cs
  if startsWithDigit r then
    finishFloat positive s (e - (n : Int)) (r.dropWhile Char.isDigit)
  else if n == 0 then .error (unexpected r)
  else finishFloat positive s (e - (n : Int)) r

/-- What may follow the integer digits of a number. -/
def finishNumber (positive : Bool) (significand : Nat) : List Char → Except Fault (Number × List Char)
  | '.' :: r => scanFraction positive significand 0 r
  | 'e' :: r => scanExponent positive significand 0 r
  | 'E' :: r => scanExponent positive significand 0 r
  | r =>
    if positive then .ok (.natural significand, r)
    else if significand == 0 || significand > 9223372036854775808 then
      .ok (.float (-significand.toUInt64.toFloat), r)
    else .ok (.negative (-(significand : Int)), r)

/-- A number after its sign. -/
def scanNumber (positive : Bool) : List Char → Except Fault (Number × List Char)
  | [] => .error .endOfInput
  | '0' :: r => if startsWithDigit r then .error .malformed else finishNumber positive 0 r
  | c :: r =>
    if !c.isDigit then .error .malformed
    else
      let (s, _, rest) := absorb (Text.digitValue c) r
      if startsWithDigit rest then
        let dropped := (rest.takeWhile Char.isDigit).length
        match rest.dropWhile Char.isDigit with
        | '.' :: r => scanFraction positive s dropped r
        | r => finishFloat positive s dropped r
      else finishNumber positive s rest

/-! ## §4. Values that do not matter. -/

/-- The rest after digits that do not matter, of which there must be one. -/
def skipDigits : List Char → Except Fault (List Char)
  | c :: r => if c.isDigit then .ok (r.dropWhile Char.isDigit) else .error .malformed
  | [] => .error .malformed

def skipExponent (cs : List Char) : Except Fault (List Char) :=
  match cs with
  | '+' :: r => skipDigits r
  | '-' :: r => skipDigits r
  | r => skipDigits r

def skipAfterInteger : List Char → Except Fault (List Char)
  | '.' :: r => do
    match ← skipDigits r with
    | 'e' :: r => skipExponent r
    | 'E' :: r => skipExponent r
    | r => .ok r
  | 'e' :: r => skipExponent r
  | 'E' :: r => skipExponent r
  | r => .ok r

/-- The rest after a number, without its sign, that does not matter. -/
def skipNumber : List Char → Except Fault (List Char)
  | '0' :: r => if startsWithDigit r then .error .malformed else skipAfterInteger r
  | cs => do skipAfterInteger (← skipDigits cs)

/-- The rest after a text that does not matter. -/
def skipText (cs : List Char) : Except Fault (List Char) :=
  match textBody false .plain cs with
  | .ok (_, r) => .ok r
  | .error e => .error e

/-- The rest after a value that is neither an array nor an object. -/
def skipScalar (cs : List Char) : Except Fault (List Char) :=
  match cs with
  | 'n' :: r => keyword ['u', 'l', 'l'] r
  | 't' :: r => keyword ['r', 'u', 'e'] r
  | 'f' :: r => keyword ['a', 'l', 's', 'e'] r
  | '-' :: r => skipNumber r
  | '"' :: r => skipText r
  | c :: r => if c.isDigit then skipNumber (c :: r) else .error .malformed
  | [] => .error .endOfInput

/-- The rest after the key of a member and its colon. -/
def skipKey (cs : List Char) : Except Fault (List Char) :=
  match skipBlanks cs with
  | '"' :: r => do
    match skipBlanks (← skipText r) with
    | ':' :: r => .ok r
    | r => .error (unexpected r)
  | r => .error (unexpected r)

mutual

/-- The rest after any value, however deep; `fuel` bounds the number of its parts. -/
def skipValue : Nat → List Char → Except Fault (List Char)
  | 0, _ => .error .endOfInput
  | fuel + 1, cs =>
    match skipBlanks cs with
    | '[' :: r =>
      match skipBlanks r with
      | ']' :: r => .ok r
      | r => skipItems fuel false r
    | '\x7b' :: r =>
      match skipBlanks r with
      | '\x7d' :: r => .ok r
      | r => skipItems fuel true r
    | r => skipScalar r

/-- The rest after the remaining items of an array, or members of an object. -/
def skipItems : Nat → Bool → List Char → Except Fault (List Char)
  | 0, _, _ => .error .endOfInput
  | fuel + 1, keyed, cs => do
    let cs ← if keyed then skipKey cs else .ok cs
    match skipBlanks (← skipValue fuel cs) with
    | ',' :: r => skipItems fuel keyed r
    | ']' :: r => if keyed then .error .malformed else .ok r
    | '\x7d' :: r => if keyed then .ok r else .error .malformed
    | r => .error (unexpected r)

end

end Admission.Json

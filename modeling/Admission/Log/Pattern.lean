/-
  Admission.Log.Pattern — which texts a directive may ask a field's value to match.

  Such a text is a truth value, a number, or else a pattern: alternatives of sequences of characters,
  classes, groups and escapes, which may be repeated.  Only whether it is well formed is asked here,
  because no record is ever logged for the value of a field.  A pattern that looks around itself, or
  for the edge of a word, is refused as well.
-/
import Admission.Text.Digit
import Admission.Text.WordChar

namespace Admission.Log.Pattern

/-! ## §1. Escapes. -/

/-- What an escape stands for. -/
inductive Escaped where
  | char (c : Nat)
  /-- A class of characters. -/
  | set
  /-- A place in the text. -/
  | place
deriving DecidableEq

/-- A character given by so many hexadecimal digits. -/
def hexEscape (count : Nat) (cs : List Char) : Option (Escaped × List Char) :=
  let ds := cs.take count
  let n := Text.ofDigits 16 ds
  if ds.length = count ∧ ds.all (fun c => (Text.hexValue? c).isSome) ∧ n.isValidChar then
    some (.char n, cs.drop count)
  else none

/-- The letters that name a general class of characters. -/
def isClassLetter (c : Char) : Bool := "clmnpszCLMNPSZ".toList.contains c

/-- An escape, after its backslash, and what follows it. -/
def escape : List Char → Option (Escaped × List Char)
  | [] => none
  | c :: r =>
    match c with
    | 'x' => hexEscape 2 r
    | 'u' => hexEscape 4 r
    | 'U' => hexEscape 8 r
    | 'a' => some (.char 7, r)
    | 't' => some (.char 9, r)
    | 'n' => some (.char 10, r)
    | 'v' => some (.char 11, r)
    | 'f' => some (.char 12, r)
    | 'r' => some (.char 13, r)
    | 'A' | 'z' => some (.place, r)
    | _ =>
      if c = 'p' ∨ c = 'P' then
        match r with
        | l :: r => if isClassLetter l then some (.set, r) else none
        | [] => none
      else if "dswDSW".toList.contains c then some (.set, r)
      else if 128 ≤ c.toNat ∨ c.isAlphanum ∨ c = '<' ∨ c = '>' then none
      else some (.char c.toNat, r)

/-! ## §2. Classes. -/

/-- A member of a class: a character, or nothing for a whole class, and what follows it. -/
def member : List Char → Option (Option Nat × List Char)
  | [] => none
  | '\\' :: r =>
    match escape r with
    | some (.char n, r) => some (some n, r)
    | some (.set, r) => some (none, r)
    | _ => none
  | c :: r => some (some c.toNat, r)

/-- What follows the opening of a class: a mark of its complement, dashes, and a bracket that would
otherwise leave it empty. -/
def opened (cs : List Char) : List Char :=
  let cs := match cs with
    | '^' :: r => r
    | cs => cs
  match cs with
  | ']' :: r => r
  | cs => cs.dropWhile (· == '-')

/-- What follows a class that is nested so deep; `fuel` bounds the number of its members. -/
def afterClass : Nat → Nat → List Char → Option (List Char)
  | 0, _, _ => none
  | _ + 1, _, [] => none
  | fuel + 1, depth, '[' :: r => afterClass fuel (depth + 1) (opened r)
  | _ + 1, 0, ']' :: r => some r
  | fuel + 1, depth + 1, ']' :: r => afterClass fuel depth r
  | fuel + 1, depth, '&' :: '&' :: r => afterClass fuel depth r
  | fuel + 1, depth, '-' :: '-' :: r => afterClass fuel depth r
  | fuel + 1, depth, '~' :: '~' :: r => afterClass fuel depth r
  | fuel + 1, depth, c :: r => do
    let (low, r) ← member (c :: r)
    match r with
    | '-' :: d :: r =>
      if d = ']' ∨ d = '-' then afterClass fuel depth ('-' :: d :: r)
      else
        let (high, r) ← member (d :: r)
        let (low, high) := (← low, ← high)
        if low ≤ high then afterClass fuel depth r else none
    | r => afterClass fuel depth r

/-! ## §3. Groups. -/

/-- A group may carry the name, if no other group does. -/
def isGroupName (taken : List String) (name : List Char) : Bool :=
  match name with
  | [] => false
  | c :: r =>
    (c == '_' || (Text.isWordChar c && !c.isDigit)) &&
    r.all (fun c => c == '_' || c == '.' || c == '[' || c == ']' || Text.isWordChar c) &&
    !taken.contains (String.ofList name)

/-- The flags of a group are known ones, each at most once, and a dash has some behind it. -/
def areFlags (flags : List Char) : Bool :=
  flags.all ("imsUuxR-".toList.contains ·) && flags.all (flags.count · == 1) &&
  flags.getLast? != some '-'

/-- How a group begins. -/
inductive Opening where
  | group (name : Option String) (rest : List Char)
  /-- No group: flags for what follows. -/
  | flags (rest : List Char)

/-- The beginning of a group, after its parenthesis. -/
def opening (taken : List String) (cs : List Char) : Option Opening :=
  let named (r : List Char) : Option Opening :=
    let name := r.takeWhile (· ≠ '>')
    match r.dropWhile (· ≠ '>') with
    | _ :: rest =>
      if isGroupName taken name then some (.group (some (String.ofList name)) rest) else none
    | [] => none
  match cs with
  | '?' :: 'P' :: '<' :: r => named r
  | '?' :: '<' :: r => named r
  | '?' :: r =>
    let flags := r.takeWhile fun c => c ≠ ':' ∧ c ≠ ')'
    match r.dropWhile fun c => c ≠ ':' ∧ c ≠ ')' with
    | ':' :: rest => if areFlags flags then some (.group none rest) else none
    | _ :: rest => if areFlags flags ∧ flags ≠ [] then some (.flags rest) else none
    | [] => none
  | r => some (.group none r)

/-! ## §4. Patterns. -/

/-- How far a pattern was read. -/
structure Progress where
  /-- The number of groups that are open. -/
  depth : Nat := 0
  /-- Something stands there that can be repeated. -/
  repeatable : Bool := false
  /-- The names of groups. -/
  names : List String := []

/-- The rest of a pattern is well formed; `fuel` bounds its length. -/
def continues : Nat → Progress → List Char → Bool
  | 0, _, _ => false
  | _ + 1, p, [] => p.depth == 0
  | fuel + 1, p, c :: r =>
    let item := { p with repeatable := true }
    match c with
    | '(' =>
      match opening p.names r with
      | some (.group name r) =>
        continues fuel ⟨p.depth + 1, false, name.toList ++ p.names⟩ r
      | some (.flags r) => continues fuel { p with repeatable := false } r
      | none => false
    | ')' => p.depth != 0 && continues fuel { item with depth := p.depth - 1 } r
    | '|' => continues fuel { p with repeatable := false } r
    | '[' =>
      match afterClass (r.length + 1) 0 (opened r) with
      | some r => continues fuel item r
      | none => false
    | '\\' =>
      match escape r with
      | some (_, r) => continues fuel item r
      | none => false
    | _ =>
      if c = '?' ∨ c = '*' ∨ c = '+' then p.repeatable && continues fuel item r
      else c != '\x7b' && continues fuel item r

/-- The text is a well-formed pattern without counted repetitions. -/
def isPattern (cs : List Char) : Bool := continues (cs.length + 1) {} cs

/-! ## §5. Numbers. -/

/-- What follows the digits at the start of a text, and whether there are any. -/
def afterDigits (cs : List Char) : Bool × List Char :=
  ((cs.head?.map Char.isDigit).getD false, cs.dropWhile Char.isDigit)

/-- Nothing, or the exponent of a number. -/
def isExponent : List Char → Bool
  | [] => true
  | e :: r =>
    let digits := match r with
      | '+' :: r => r
      | '-' :: r => r
      | r => r
    (e == 'e' || e == 'E') && afterDigits digits == (true, [])

/-- The text is a number with an optional sign, fraction and exponent, or names none. -/
def isNumber (cs : List Char) : Bool :=
  let cs := match cs with
    | '+' :: r => r
    | '-' :: r => r
    | r => r
  let word := (String.ofList cs).toLower
  if word = "inf" ∨ word = "infinity" ∨ word = "nan" then true
  else
    let (whole, r) := afterDigits cs
    match r with
    | '.' :: r =>
      let (fraction, r) := afterDigits r
      (whole || fraction) && isExponent r
    | r => whole && isExponent r

/-- A directive may ask for the text as the value of a field. -/
def isAllowed (cs : List Char) : Bool := isNumber cs || isPattern cs

end Admission.Log.Pattern

/-
  Admission.Json.Value — JSON documents and their two written forms.

  A document is a tree; the members of an object keep their order.  The COMPACT form has no blanks.
  The PRETTY form puts each item and each member on a line of its own, two blanks deeper than its
  parent, and writes an empty array or object as in the compact form.
-/

namespace Admission.Json

/-! ## §1. Documents. -/

/-- A document whose numbers are integers. -/
inductive Value where
  | null
  | boolean (b : Bool)
  | integer (n : Int)
  | text (s : String)
  | array (items : List Value)
  | object (members : List (String × Value))

namespace Value

instance : Inhabited Value := ⟨.null⟩

def ofNat (n : Nat) : Value := .integer n

/-- A value, or null for none. -/
def ofOption {α : Type} (f : α → Value) : Option α → Value
  | some a => f a
  | none => .null

def member? (name : String) : Value → Option Value
  | .object ms => ms.lookup name
  | _ => none

def asInt? : Value → Option Int
  | .integer n => some n
  | _ => none

def asBool? : Value → Option Bool
  | .boolean b => some b
  | _ => none

def asText? : Value → Option String
  | .text s => some s
  | _ => none

end Value

/-! ## §2. Texts. -/

/-- One character of a text between quotes. -/
def escapeChar (c : Char) : List Char :=
  if c = '"' then ['\\', '"']
  else if c = '\\' then ['\\', '\\']
  else if c = '\x08' then ['\\', 'b']
  else if c = '\t' then ['\\', 't']
  else if c = '\n' then ['\\', 'n']
  else if c = '\x0c' then ['\\', 'f']
  else if c = '\r' then ['\\', 'r']
  else if c.toNat < 32 then
    ['\\', 'u', '0', '0', Nat.digitChar (c.toNat / 16), Nat.digitChar (c.toNat % 16)]
  else [c]

/-- A text in quotes. -/
def escape (s : String) : List Char := '"' :: s.toList.flatMap escapeChar ++ ['"']

/-- The decimal digits of an integer. -/
def integerChars (n : Int) : List Char :=
  if n < 0 then '-' :: Nat.toDigits 10 n.natAbs else Nat.toDigits 10 n.natAbs

/-! ## §3. The compact form. -/

mutual

def compactChars : Value → List Char
  | .null => ['n', 'u', 'l', 'l']
  | .boolean true => ['t', 'r', 'u', 'e']
  | .boolean false => ['f', 'a', 'l', 's', 'e']
  | .integer n => integerChars n
  | .text s => escape s
  | .array items => '[' :: compactItems items ++ [']']
  | .object members => '\x7b' :: compactMembers members ++ ['\x7d']

def compactItems : List Value → List Char
  | [] => []
  | [v] => compactChars v
  | v :: rest => compactChars v ++ ',' :: compactItems rest

def compactMembers : List (String × Value) → List Char
  | [] => []
  | [(k, v)] => escape k ++ ':' :: compactChars v
  | (k, v) :: rest => escape k ++ ':' :: compactChars v ++ ',' :: compactMembers rest

end

/-- The compact form. -/
def Value.compact (v : Value) : String := String.ofList (compactChars v)

/-! ## §4. The pretty form. -/

/-- A line break and the blanks of a depth. -/
def lineBreak (depth : Nat) : List Char := '\n' :: List.replicate (2 * depth) ' '

mutual

def prettyChars (depth : Nat) : Value → List Char
  | .null => ['n', 'u', 'l', 'l']
  | .boolean true => ['t', 'r', 'u', 'e']
  | .boolean false => ['f', 'a', 'l', 's', 'e']
  | .integer n => integerChars n
  | .text s => escape s
  | .array [] => ['[', ']']
  | .array items => '[' :: prettyItems (depth + 1) items ++ lineBreak depth ++ [']']
  | .object [] => ['\x7b', '\x7d']
  | .object members => '\x7b' :: prettyMembers (depth + 1) members ++ lineBreak depth ++ ['\x7d']

def prettyItems (depth : Nat) : List Value → List Char
  | [] => []
  | [v] => lineBreak depth ++ prettyChars depth v
  | v :: rest => lineBreak depth ++ prettyChars depth v ++ ',' :: prettyItems depth rest

def prettyMembers (depth : Nat) : List (String × Value) → List Char
  | [] => []
  | [(k, v)] => lineBreak depth ++ escape k ++ [':', ' '] ++ prettyChars depth v
  | (k, v) :: rest =>
    lineBreak depth ++ escape k ++ [':', ' '] ++ prettyChars depth v ++
      ',' :: prettyMembers depth rest

end

/-- The pretty form. -/
def Value.pretty (v : Value) : String := String.ofList (prettyChars 0 v)

end Admission.Json

/-
  Admission.Json.Shape — reading a JSON text as a value of a declared shape.

  A shape says what is expected: a boolean, an integer of a width, a text, something that may be
  null, a record or a choice between named variants.  The text is read ONCE, from left to right, and
  the first fault met decides, whether it is one of the text or of the shape.  A record may also be
  written as an array of its fields in order; unknown members are skipped; a missing field is null
  if it may be, and is looked for only after all members were read.
-/
import Admission.Json.Value
import Admission.Json.Scan

namespace Admission.Json

/-! ## §1. Shapes. -/

/-- What a choice carries beside the name of the variant. -/
inductive Payload where
  | none
  | text
deriving DecidableEq

/-- What a text is expected to hold. -/
inductive Shape where
  | boolean
  | integer (width : Width) (name : String)
  | text
  | optional (s : Shape)
  | record (name : String) (fields : List (String × Shape))
  | choice (names : List String) (payload : Payload)

namespace Shape

def word16 : Shape := .integer .word16 "u16"
def word64 : Shape := .integer .word64 "u64"
/-- A word that counts things in memory. -/
def size : Shape := .integer .word64 "usize"
def int64 : Shape := .integer .int64 "i64"

/-- Null is among the values of the shape. -/
def isOptional : Shape → Bool
  | .optional _ => true
  | _ => false

end Shape

/-! ## §2. Scalars. -/

/-- The fault of a value of another kind than `expected`.  The value is read as far as is needed to
name it, so a fault of the text within it comes first. -/
def kindFault (expected : String) (cs : List Char) : Fault :=
  let named (found : Found) : Fault := .mismatch (.kind found expected)
  let afterKeyword (ks r : List Char) (found : Found) : Fault :=
    match keyword ks r with
    | .ok _ => named found
    | .error e => e
  let afterNumber (positive : Bool) (r : List Char) : Fault :=
    match scanNumber positive r with
    | .ok (n, _) => named n.found
    | .error e => e
  match cs with
  | 'n' :: r => afterKeyword ['u', 'l', 'l'] r .null
  | 't' :: r => afterKeyword ['r', 'u', 'e'] r (.boolean true)
  | 'f' :: r => afterKeyword ['a', 'l', 's', 'e'] r (.boolean false)
  | '-' :: r => afterNumber false r
  | '"' :: r =>
    match scanText r with
    | .ok (s, _) => named (.text s)
    | .error e => e
  | '[' :: _ => named .sequence
  | '\x7b' :: _ => named .map
  | c :: r => if c.isDigit then afterNumber true (c :: r) else .malformed
  | [] => .endOfInput

/-- A number as an integer of a width. -/
def fitNumber (width : Width) (name : String) : Number → Except Fault Value
  | .natural n =>
    if width.contains n then .ok (.integer n)
    else .error (.mismatch (.range (.integer n) name))
  | .negative n =>
    if width.contains n then .ok (.integer n)
    else .error (.mismatch (.range (.integer n) name))
  | .float x => .error (.mismatch (.kind (Number.float x).found name))

/-- Reads an integer; the text has no blanks in front. -/
def scanInteger (width : Width) (name : String) (cs : List Char) : Except Fault (Value × List Char) :=
  let fit (s : Except Fault (Number × List Char)) : Except Fault (Value × List Char) :=
    match s with
    | .ok (n, r) =>
      match fitNumber width name n with
      | .ok v => .ok (v, r)
      | .error e => .error e
    | .error e => .error e
  match cs with
  | '-' :: r => fit (scanNumber false r)
  | c :: r => if c.isDigit then fit (scanNumber true (c :: r)) else .error (kindFault name (c :: r))
  | [] => .error .endOfInput

def scanBoolean (cs : List Char) : Except Fault (Value × List Char) :=
  match cs with
  | 't' :: r =>
    match keyword ['r', 'u', 'e'] r with
    | .ok r => .ok (.boolean true, r)
    | .error e => .error e
  | 'f' :: r =>
    match keyword ['a', 'l', 's', 'e'] r with
    | .ok r => .ok (.boolean false, r)
    | .error e => .error e
  | r => .error (kindFault "a boolean" r)

/-- Reads a text of which a mismatch says that `expected` was wanted. -/
def scanString (expected : String) (cs : List Char) : Except Fault (String × List Char) :=
  match cs with
  | '"' :: r => scanText r
  | r => .error (kindFault expected r)

/-! ## §3. Choices. -/

/-- The name of a variant, if there is one of that name. -/
def scanVariant (names : List String) (cs : List Char) : Except Fault (String × List Char) := do
  let (name, r) ← scanString "variant identifier" cs
  if names.contains name then .ok (name, r)
  else .error (.mismatch (.unknownVariant name names))

/-- The payload of a variant, and the value that it makes with the variant's name. -/
def scanPayload (name : String) (cs : List Char) : Payload → Except Fault (Value × List Char)
  | .none =>
    match cs with
    | 'n' :: r =>
      match keyword ['u', 'l', 'l'] r with
      | .ok r => .ok (.text name, r)
      | .error e => .error e
    | r => .error (kindFault "unit" r)
  | .text => do
    let (s, r) ← scanString "a string" cs
    .ok (.object [(name, .text s)], r)

/-- Reads a choice: the name alone, or an object with the name and the payload. -/
def scanChoice (names : List String) (payload : Payload) (cs : List Char) : Except Fault (Value × List Char) := do
  match cs with
  | '"' :: _ =>
    let (name, r) ← scanVariant names cs
    match payload with
    | .none => .ok (.text name, r)
    | .text => .error (.mismatch (.kind .unitVariant "newtype variant"))
  | '\x7b' :: r =>
    let (name, r) ← scanVariant names (skipBlanks r)
    match skipBlanks r with
    | ':' :: r =>
      let (v, r) ← scanPayload name (skipBlanks r) payload
      match skipBlanks r with
      | '\x7d' :: r => .ok (v, r)
      | r => .error (unexpected r)
    | r => .error (unexpected r)
  | r => .error (unexpected r)

/-! ## §4. Records. -/

/-- The members of a record in declared order; those that may be null and are missing are null. -/
def collectFields (read : List (String × Value)) :
    List (String × Shape) → Except Fault (List (String × Value))
  | [] => .ok []
  | (name, s) :: rest =>
    match read.lookup name with
    | some v => do .ok ((name, v) :: (← collectFields read rest))
    | none =>
      if s.isOptional then do .ok ((name, .null) :: (← collectFields read rest))
      else .error (.mismatch (.missingField name))

mutual

/-- Reads a value of a shape; `fuel` bounds the number of parts. -/
def scanShape : Nat → Shape → List Char → Except Fault (Value × List Char)
  | 0, _, _ => .error .endOfInput
  | fuel + 1, s, cs =>
    let cs := skipBlanks cs
    if cs.isEmpty then .error .endOfInput
    else match s with
      | .boolean => scanBoolean cs
      | .integer width name => scanInteger width name cs
      | .text => do
        let (t, r) ← scanString "a string" cs
        .ok (.text t, r)
      | .optional s =>
        match cs with
        | 'n' :: r =>
          match keyword ['u', 'l', 'l'] r with
          | .ok r => .ok (.null, r)
          | .error e => .error e
        | cs => scanShape fuel s cs
      | .choice names payload => scanChoice names payload cs
      | .record name fields =>
        match cs with
        | '\x7b' :: r => do
          let (read, r) ← scanMembers fuel fields [] true r
          .ok (.object (← collectFields read fields), r)
        | '[' :: r => do
          let (items, r) ← scanFields fuel name fields.length fields 0 r
          match skipBlanks r with
          | ']' :: r => .ok (.object items, r)
          | r => .error (unexpected r)
        | cs => .error (kindFault ("struct " ++ name) cs)

/-- Reads the members of a record from where its first or next key may stand. -/
def scanMembers : Nat → List (String × Shape) → List (String × Value) → Bool → List Char →
    Except Fault (List (String × Value) × List Char)
  | 0, _, _, _, _ => .error .endOfInput
  | fuel + 1, fields, read, first, cs => do
    let key (cs : List Char) : Except Fault (List (String × Value) × List Char) := do
      match cs with
      | '"' :: r =>
        let (name, r) ← scanText r
        match fields.lookup name with
        | none =>
          match skipBlanks r with
          | ':' :: r => scanMembers fuel fields read false (← skipValue r.length.succ r)
          | r => .error (unexpected r)
        | some s =>
          if (read.lookup name).isSome then .error (.mismatch (.duplicateField name))
          else match skipBlanks r with
            | ':' :: r =>
              let (v, r) ← scanShape fuel s r
              scanMembers fuel fields (read ++ [(name, v)]) false r
            | r => .error (unexpected r)
      | r => .error (unexpected r)
    match skipBlanks cs with
    | '\x7d' :: r => .ok (read, r)
    | ',' :: r => if first then .error .malformed else key (skipBlanks r)
    | r => if first then key r else .error (unexpected r)

/-- Reads the fields of a record that is written as an array. -/
def scanFields : Nat → String → Nat → List (String × Shape) → Nat → List Char →
    Except Fault (List (String × Value) × List Char)
  | 0, _, _, _, _, _ => .error .endOfInput
  | _ + 1, _, _, [], _, cs => .ok ([], cs)
  | fuel + 1, name, count, (field, s) :: rest, index, cs => do
    let item (cs : List Char) : Except Fault (List (String × Value) × List Char) := do
      let (v, r) ← scanShape fuel s cs
      let (vs, r) ← scanFields fuel name count rest (index + 1) r
      .ok ((field, v) :: vs, r)
    match skipBlanks cs with
    | ']' :: _ => .error (.mismatch (.length index (Mismatch.recordLength name count)))
    | ',' :: r =>
      if index == 0 then item (',' :: r)
      else match skipBlanks r with
        | [] => .error .endOfInput
        | ']' :: _ => .error .malformed
        | r => item r
    | [] => .error .endOfInput
    | r => if index == 0 then item r else .error .malformed

end

/-- Reads a whole text as a value of a shape. -/
def Shape.read (s : Shape) (text : String) : Except Fault Value := do
  let cs := text.toList
  let (v, r) ← scanShape (cs.length + 8) s cs
  match skipBlanks r with
  | [] => .ok v
  | _ :: _ => .error .malformed

end Admission.Json

/-
  Admission.Toml.Document — a whole settings text, line by line.

  A line is blank or a comment, or has a header, or sets a key to a value; it may end in a comment.
  An array may run over several lines, a table within a line may not.  The lines are grouped into
  sections, and the sections make one table.
-/
import Admission.Toml.Scalar
import Admission.Toml.Table

namespace Admission.Toml

/-! ## §1. Values. -/

/-- The rest after space, line breaks and comments; `fuel` is the length of what is left. -/
def skipFiller : Nat → List Char → List Char
  | 0, cs => cs
  | fuel + 1, cs =>
    match skipSpace cs with
    | '#' :: r => skipFiller fuel (r.dropWhile isCommentChar)
    | r => r

/-- Items of an array, from where the first or next one may stand to the closing bracket. -/
def arrayItems (item : List Char → Option (Value × List Char)) :
    Nat → List Char → Option (List Value × List Char)
  | 0, _ => none
  | fuel + 1, cs =>
    match skipFiller cs.length cs with
    | ']' :: r => some ([], r)
    | cs => do
      let (v, r) ← item cs
      match skipFiller r.length r with
      | ']' :: r => some ([v], r)
      | ',' :: r =>
        let (vs, r) ← arrayItems item fuel r
        some (v :: vs, r)
      | _ => none

/-- A key, its mark and its value. -/
def keyedValue (item : List Char → Option (Value × List Char)) (cs : List Char) :
    Option ((List String × Value) × List Char) := do
  let (path, r) ← key cs
  let (v, r) ← item (skipSpaces (← mark '=' r))
  some ((path, v), r)

/-- Keys and values of a table within a line, to the closing brace. -/
def inlinePairs (item : List Char → Option (Value × List Char)) :
    Nat → List Char → Option (List (List String × Value) × List Char)
  | 0, _ => none
  | fuel + 1, cs => do
    let (p, r) ← keyedValue item cs
    match skipSpaces r with
    | '\x7d' :: r => some ([p], r)
    | ',' :: r =>
      let (ps, r) ← inlinePairs item fuel r
      some (p :: ps, r)
    | _ => none

/-- A value that may nest as deep as the budget allows. -/
def value : Nat → List Char → Option (Value × List Char)
  | budget + 1, '[' :: r => do
    let (items, r) ← arrayItems (value budget) (r.length + 1) r
    some (.array items, r)
  | budget + 1, '\x7b' :: r => do
    match skipSpaces r with
    | '\x7d' :: r => some (.table [], r)
    | r =>
      let (pairs, r) ← inlinePairs (value budget) (r.length + 1) r
      some (.table (entriesToValues (← assignAll [] pairs)), r)
  | _, cs => scalar cs

/-! ## §2. Lines. -/

/-- What a line says. -/
inductive Line where
  | header (h : Header)
  | pair (path : List String) (v : Value)

/-- The rest after the end of a line, which a comment may precede. -/
def lineEnd (cs : List Char) : Option (List Char) :=
  let r := match skipSpaces cs with
    | '#' :: r => r.dropWhile isCommentChar
    | r => r
  match r with
  | [] => some []
  | r => lineBreak? r

/-- The header of a line, after its first bracket. -/
def header : List Char → Option (Header × List Char)
  | '[' :: r => do
    let (path, r) ← key r
    some (.item path, ← mark ']' (← mark ']' r))
  | r => do
    let (path, r) ← key r
    some (.table path, ← mark ']' r)

/-- The lines of a text that say something; `fuel` is the length of what is left. -/
def lines : Nat → List Char → Option (List Line)
  | 0, cs => if cs.isEmpty then some [] else none
  | fuel + 1, cs =>
    match skipSpaces cs with
    | [] => some []
    | '#' :: r => do lines fuel (← lineEnd ('#' :: r))
    | '[' :: r => do
      let (h, r) ← header r
      let rest ← lines fuel (← lineEnd r)
      some (.header h :: rest)
    | c :: r =>
      match lineBreak? (c :: r) with
      | some r => lines fuel r
      | none => do
        let ((path, v), r) ← keyedValue (value (depthLimit - 1)) (c :: r)
        let rest ← lines fuel (← lineEnd r)
        some (.pair path v :: rest)

/-! ## §3. The text. -/

/-- Groups lines under their headers; `pairs` came since header `h`. -/
def groupLines (h : Header) (pairs : List (List String × Value)) : List Line → List Section
  | [] => [⟨h, pairs⟩]
  | .header next :: r => ⟨h, pairs⟩ :: groupLines next [] r
  | .pair path v :: r => groupLines h (pairs ++ [(path, v)]) r

/-- Reads a settings text as the entries of a table, or not at all.  A byte order mark in front is
skipped. -/
def read (text : String) : Option (List (String × Value)) := do
  let cs := match text.toList with
    | '\uFEFF' :: r => r
    | cs => cs
  assemble (groupLines .top [] (← lines (cs.length + 1) cs))

end Admission.Toml

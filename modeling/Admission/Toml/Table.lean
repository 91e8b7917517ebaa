/-
  Admission.Toml.Table — the tables that the lines of a settings text build up.

  A key may name a table within a table.  A table is OPENED by its own header, IMPLIED by the header
  of a table within it, or DOTTED into being by a key.  No table is opened twice and no key is set
  twice; a key never reaches into a table that a header opened, and never ends in one that a header
  implied.  A header may open what was implied so far: that table then moves to the end.
-/
import Admission.Toml.Value

namespace Admission.Toml

/-! ## §1. Nodes. -/

/-- How a table came into being. -/
inductive Origin where
  | opened
  | implied
  | dotted
deriving DecidableEq

/-- What a key stands for while the text is read. -/
inductive Node where
  /-- A value that is complete. -/
  | value (v : Value)
  | table (origin : Origin) (entries : List (String × Node))
  /-- A table for each of the headers of this name, the latest last. -/
  | tables (items : List (List (String × Node)))

abbrev Entries := List (String × Node)

/-- The entries with the node of a key replaced. -/
def Entries.replace (key : String) (n : Node) : Entries → Entries
  | [] => []
  | (k, m) :: r => if k = key then (k, n) :: r else (k, m) :: replace key n r

/-- The entries without a key. -/
def Entries.without (key : String) : Entries → Entries
  | [] => []
  | (k, m) :: r => if k = key then r else (k, m) :: without key r

mutual

/-- The value of a node, once no line can change it any more. -/
def Node.toValue : Node → Value
  | .value v => v
  | .table _ es => .table (entriesToValues es)
  | .tables items => .array (tablesToValues items)

def entriesToValues : List (String × Node) → List (String × Value)
  | [] => []
  | (k, n) :: r => (k, n.toValue) :: entriesToValues r

def tablesToValues : List (List (String × Node)) → List Value
  | [] => []
  | es :: r => .table (entriesToValues es) :: tablesToValues r

end

/-! ## §2. Changes along a path. -/

/-- Changes the entries at the end of a path.  Tables that are missing on the way are made: dotted
into being by a key, implied by a header.  The change is told how the table came into being. -/
def changeAt (byKey : Bool) (change : Origin → Entries → Option Entries) :
    List String → Origin → Entries → Option Entries
  | [], origin, es => change origin es
  | key :: path, _, es =>
    match es.lookup key with
    | none => do
      let inner ← changeAt byKey change path (if byKey then .dotted else .implied) []
      some (es ++ [(key, .table (if byKey then .dotted else .implied) inner)])
    | some (.table origin inner) =>
      if byKey && origin == .opened then none
      else do
        let inner ← changeAt byKey change path origin inner
        some (es.replace key (.table origin inner))
    | some (.tables items) =>
      match items.getLast? with
      | none => none
      | some last => do
        let last ← changeAt byKey change path .opened last
        some (es.replace key (.tables (items.dropLast ++ [last])))
    | some (.value _) => none

/-- The part of a path before its last key, and that key. -/
def splitPath : List String → Option (List String × String)
  | [] => none
  | [k] => some ([], k)
  | k :: r => do
    let (front, last) ← splitPath r
    some (k :: front, last)

/-- Sets a key, dotted or not, to a value that was not set before. -/
def assign (es : Entries) (path : List String) (v : Value) : Option Entries := do
  let (front, key) ← splitPath path
  let set (origin : Origin) (es : Entries) : Option Entries :=
    if (origin == .dotted) == front.isEmpty then none
    else if (es.lookup key).isSome then none
    else some (es ++ [(key, .value v)])
  changeAt true set front .opened es

/-- Sets keys one after the other. -/
def assignAll (es : Entries) (pairs : List (List String × Value)) : Option Entries :=
  pairs.foldlM (fun es (path, v) => assign es path v) es

/-! ## §3. Sections. -/

/-- What the header of a section opens. -/
inductive Header where
  /-- The top of the text, which has no header. -/
  | top
  | table (path : List String)
  /-- One more table of a name that may have many. -/
  | item (path : List String)

/-- A header and the keys that are set under it. -/
structure Section where
  header : Header
  pairs : List (List String × Value)

/-- Adds a section to the sections before it. -/
def addSection (es : Entries) (s : Section) : Option Entries :=
  match s.header with
  | .top => assignAll es s.pairs
  | .table path => do
    let (front, key) ← splitPath path
    let fill (_ : Origin) (es : Entries) : Option Entries :=
      match es.lookup key with
      | none => do
        let inner ← assignAll [] s.pairs
        some (es ++ [(key, .table .opened inner)])
      | some (.table .implied inner) => do
        let inner ← assignAll inner s.pairs
        some (es.without key ++ [(key, .table .opened inner)])
      | some _ => none
    changeAt false fill front .opened es
  | .item path => do
    let (front, key) ← splitPath path
    let fill (_ : Origin) (es : Entries) : Option Entries := do
      let inner ← assignAll [] s.pairs
      match es.lookup key with
      | none => some (es ++ [(key, .tables [inner])])
      | some (.tables items) => some (es.replace key (.tables (items ++ [inner])))
      | some _ => none
    changeAt false fill front .opened es

/-- The entries of the table that the sections of a text make. -/
def assemble (sections : List Section) : Option (List (String × Value)) := do
  let es ← sections.foldlM addSection []
  some (entriesToValues es)

end Admission.Toml

/-
  Admission.Dotenv — variables that a file gives to the environment.

  The file has a variable per line, with `export` in front if one likes.  A value may be quoted, may
  run over several lines within quotes, and may refer to other variables; single quotes take it as
  it stands.  A line that cannot be read ends the reading, and what was read before it stays.  A
  variable that is set to a text already is not touched.
-/
import Admission.Config.Environment
import Admission.Files
import Admission.Text.Blank
import Admission.Text.WordChar

namespace Admission.Dotenv

open Config (Environment)

/-! ## §1. Characters. -/

def isKeyStart (c : Char) : Bool := c.isAlpha || c == '_'

def isKeyChar (c : Char) : Bool := c.isAlphanum || c == '_' || c == '.'

/-! ## §2. Lines that belong together. -/

/-- Where a line ends, as far as quotes are concerned. -/
inductive Ending where
  | complete
  | escape
  | single
  | singleEscape
  | double
  | doubleEscape
  | blank
deriving DecidableEq

/-- What one more character does outside of quotes. -/
def Ending.outside (c : Char) : Ending :=
  if c = '\\' then .escape
  else if c = '"' then .double
  else if c = '\'' then .single
  else .complete

/-- What one more character does; nothing, if a comment starts at it. -/
def Ending.next (e : Ending) (c : Char) : Option Ending :=
  match e with
  | .blank => if c = '#' then none else some (.outside c)
  | .escape => some .complete
  | .complete =>
    if Text.isBlank c ∧ c ≠ '\n' ∧ c ≠ '\r' then some .blank else some (.outside c)
  | .double => some (if c = '\\' then .doubleEscape else if c = '"' then .complete else .double)
  | .doubleEscape => some .double
  | .single => some (if c = '\\' then .singleEscape else if c = '\'' then .complete else .single)
  | .singleEscape => some .single

/-- How a line ends; a comment is cut off, and then the line is complete. -/
def lineEnding : Ending → List Char → List Char × Ending
  | e, [] => ([], e)
  | e, c :: r =>
    match e.next c with
    | none => ([], .complete)
    | some e =>
      let (kept, e) := lineEnding e r
      (c :: kept, e)

/-- The text without the line break at its end. -/
def dropBreak (cs : List Char) : List Char :=
  match cs.reverse with
  | '\n' :: '\r' :: r => r.reverse
  | '\n' :: r => r.reverse
  | _ => cs

/-- Joins lines as long as quotes are open.  A line is nothing if it is no text; so is the last one
if the quotes are never closed. -/
def joinLines (open_ : List Char) (e : Ending) : List (Option (List Char)) →
    List (Option (List Char))
  | [] => if e = .complete then [] else [none]
  | none :: _ => [none]
  | some line :: rest =>
    if (Text.dropBlanks (open_ ++ line)).head? = some '#' then joinLines [] .complete rest
    else
      let (kept, e) := lineEnding e line
      if e = .complete then some (dropBreak (open_ ++ kept)) :: joinLines [] .complete rest
      else joinLines (open_ ++ kept) e rest

/-! ## §3. Values. -/

/-- A reference that is being read. -/
inductive Reference where
  | none
  | plain
  | braced
deriving DecidableEq

/-- How far a value was read; names and texts are kept backwards. -/
structure ValueState where
  single : Bool := false
  double : Bool := false
  escaped : Bool := false
  /-- Only blanks or a comment may follow. -/
  ended : Bool := false
  reference : Reference := .none
  name : List Char := []
  out : List Char := []

namespace ValueState

/-- One more character of the value. -/
def push (s : ValueState) (c : Char) : ValueState := { s with out := c :: s.out }

/-- The reference is replaced by what it stands for. -/
def resolve (value : String → String) (s : ValueState) : ValueState :=
  { s with
    reference := .none
    name := []
    out := (value (String.ofList s.name.reverse)).toList.reverse ++ s.out }

/-- One character; nothing, if it must not stand there. -/
def step (value : String → String) (s : ValueState) (c : Char) : Option ValueState :=
  if s.ended then
    if c = ' ' ∨ c = '\t' then some s else none
  else if s.escaped then
    let s := { s with escaped := false }
    if c = '\\' ∨ c = '\'' ∨ c = '"' ∨ c = '$' ∨ c = ' ' then some (s.push c)
    else if c = 'n' then some (s.push '\n')
    else none
  else if s.single then
    some (if c = '\'' then { s with single := false } else s.push c)
  else if s.reference ≠ .none then
    if Text.isWordChar c then some { s with name := c :: s.name }
    else if s.reference = .braced then
      some (if c = '\x7d' then s.resolve value else { s with name := c :: s.name })
    else if c = '\x7b' ∧ s.name.isEmpty then some { s with reference := .braced }
    else
      let s := s.resolve value
      some (if c = '$' then { s with reference := .plain } else s.push c)
  else if c = '$' then some { s with reference := .plain }
  else if s.double then
    some (if c = '"' then { s with double := false }
      else if c = '\\' then { s with escaped := true }
      else s.push c)
  else if c = '\'' then some { s with single := true }
  else if c = '"' then some { s with double := true }
  else if c = '\\' then some { s with escaped := true }
  else if c = ' ' ∨ c = '\t' then some { s with ended := true }
  else some (s.push c)

/-- The value of a text, up to a comment. -/
def run (value : String → String) : ValueState → List Char → Option ValueState
  | s, [] => some s
  | s, c :: r =>
    if s.ended ∧ c = '#' then some s
    else do run value (← s.step value c) r

end ValueState

/-- Reads a value; `value` is what a reference stands for. -/
def readValue (value : String → String) (cs : List Char) : Option String := do
  let s ← ValueState.run value {} cs
  if s.reference = .braced ∨ s.single ∨ s.double then none
  else some (String.ofList (s.resolve value).out.reverse)

/-! ## §4. Variables. -/

/-- A name at the start of a text, and the rest. -/
def readKey (cs : List Char) : Option (String × List Char) :=
  match cs with
  | c :: _ =>
    if isKeyStart c then
      some (String.ofList (cs.takeWhile isKeyChar), cs.dropWhile isKeyChar)
    else none
  | [] => none

/-- The rest after an equals sign. -/
def equals? : List Char → Option (List Char)
  | '=' :: r => some r
  | _ => none

/-- The name of a line and what follows its equals sign; `export` may be in front, or be the name. -/
def readName (cs : List Char) : Option (String × List Char) := do
  let (key, r) ← readKey cs
  let r := Text.dropBlanks r
  if key = "export" then
    match equals? r with
    | some r => some (key, r)
    | none =>
      let (key, r) ← readKey r
      some (key, ← equals? (Text.dropBlanks r))
  else some (key, ← equals? r)

/-- What was read so far: the environment, and the values that the lines gave. -/
structure State where
  environment : Environment
  given : List (String × String) := []

/-- What a reference stands for: a variable that is set, or else what a line gave. -/
def State.value (s : State) (name : String) : String :=
  match s.environment.text? name with
  | some v => v
  | none => (s.given.lookup name).getD ""

/-- Sets a variable that is not set yet. -/
def State.give (s : State) (key v : String) : State :=
  { environment :=
      match s.environment.text? key with
      | some _ => s.environment
      | none => s.environment.set key (.text v)
    given := (key, v) :: s.given }

/-- One line; nothing, if it cannot be read. -/
def State.line (s : State) (cs : List Char) : Option State := do
  let cs := Text.trim cs
  if cs.isEmpty ∨ cs.head? = some '#' then some s
  else
    let (key, r) ← readName cs
    let r := Text.dropBlanks r
    if r.isEmpty ∨ r.head? = some '#' then some (s.give key "")
    else some (s.give key (← readValue s.value r))

/-- All lines, up to the first that cannot be read. -/
def State.lines (s : State) : List (Option (List Char)) → State
  | [] => s
  | none :: _ => s
  | some l :: rest =>
    match s.line l with
    | some s => s.lines rest
    | none => s

/-! ## §5. The file. -/

/-- The lines of a text, each with its line break. -/
def splitLines (text : String) : List (List Char) :=
  let parts := (Text.split '\n' text).map String.toList
  let whole := parts.dropLast.map (· ++ ['\n'])
  match parts.getLast? with
  | some [] => whole
  | some last => whole ++ [last]
  | none => whole

/-- The lines of bytes, as far as they are text. -/
def splitBytes (bytes : List UInt8) : List (Option (List Char)) :=
  let rec go (line : List UInt8) : List UInt8 → List (Option (List Char))
    | [] => if line.isEmpty then [] else [decode line]
    | b :: r => if b = 10 then decode (b :: line) :: go [] r else go (b :: line) r
  go [] bytes
where
  decode (reversed : List UInt8) : Option (List Char) :=
    (Text.Raw.ofBytes reversed.reverse).text?.map String.toList

/-- The lines of a file; a byte order mark in front does not count. -/
def linesOf : Text.Raw → List (Option (List Char))
  | .text s =>
    let s := match s.toList with
      | '\uFEFF' :: r => String.ofList r
      | _ => s
    (splitLines s).map some
  | .binary bs =>
    splitBytes (match bs with
      | 0xEF :: 0xBB :: 0xBF :: r => r
      | r => r)

/-- The place of the file. -/
def path : String := ".env"

/-- The environment with what the file gives, if there is one. -/
def load (fs : Files) (e : Environment) : Environment :=
  match fs.content? path with
  | some content =>
    (State.lines { environment := e } (joinLines [] .complete (linesOf content))).environment
  | none => e

end Admission.Dotenv

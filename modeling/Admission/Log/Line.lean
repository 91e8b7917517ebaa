/-
  Admission.Log.Line — how a record looks in a log.

  A record is a line of JSON, a compact line, or a line with its place in the listing below it.  The
  last two are coloured unless they go to a file, and command a terminal nothing else.
-/
import Admission.Json.Value
import Admission.Log.Record
import Admission.Text.Terminal

namespace Admission.Log

/-- The looks of a record. -/
inductive Format where
  | compact
  | pretty
  | json
deriving DecidableEq

/-- The format of a name; a name that is not known stands for the compact one. -/
def Format.ofName (name : Option String) : Format :=
  if name = some "json" then .json
  else if name = some "pretty" ∨ name = some "dev" then .pretty
  else .compact

/-- What turns a terminal attribute on. -/
def paintOn (colored : Bool) (code : String) : String :=
  if colored then "\x1b[" ++ code ++ "m" else ""

/-- What turns all terminal attributes off. -/
def paintOff (colored : Bool) : String := if colored then "\x1b[0m" else ""

/-- A text with a terminal attribute, or without. -/
def paint (colored : Bool) (code : String) (s : String) : String :=
  paintOn colored code ++ s ++ paintOff colored

/-- The colour of a level. -/
def Level.color : Level → String
  | .trace => "35"
  | .debug => "34"
  | .info => "32"
  | .warn => "33"
  | .error => "31"

/-- The name of a level, in a column of its own. -/
def Level.column (l : Level) : String :=
  String.ofList (List.replicate (5 - l.name.length) ' ') ++ l.name

namespace Record

/-- A number with its name, behind a message on a compact line. -/
def compactNumber (colored : Bool) (name : String) (n : Nat) : String :=
  " " ++ paint colored "3" name ++ paint colored "2" "=" ++ toString n

/-- The record on a compact line. -/
def compactLine (colored : Bool) (time : String) (r : Record) : String :=
  paint colored "2" time ++ " " ++ paint colored r.level.color r.level.column ++ " " ++
  paint colored "2" r.target ++ paint colored "2" ":" ++ " " ++ Text.disarmed r.message ++
  String.join (r.numbers.map fun (name, n) => compactNumber colored name n) ++ "\n"

/-- A text in bold within a line that is all in the colour of a level. -/
def emphasized (colored : Bool) (l : Level) (s : String) : String :=
  paint colored ("1;" ++ l.color) s ++ paintOn colored l.color

/-- The record on a line in the colour of its level, a line with its place in the listing, and a
blank one. -/
def prettyLines (colored : Bool) (time : String) (r : Record) : String :=
  "  " ++ paint colored "2" time ++ " " ++ paint colored r.level.color r.level.column ++ " " ++
  emphasized colored r.level r.target ++ ": " ++
  paintOn colored r.level.color ++ Text.disarmed r.message ++
  String.join (r.numbers.map fun (name, n) =>
    ", " ++ emphasized colored r.level name ++ ": " ++ toString n) ++
  paintOff colored ++ "\n" ++
  "    " ++ paint colored "2;3" "at" ++ " " ++ listingOf r.target ++ ":" ++ toString r.line ++ "\n\n"

/-- The record as a document. -/
def toValue (time : String) (r : Record) : Json.Value :=
  .object
    [("timestamp", .text time),
     ("level", .text r.level.name),
     ("fields", .object (("message", .text r.message) ::
       r.numbers.map fun (name, n) => (name, .ofNat n))),
     ("target", .text r.target)]

/-- The record in a format. -/
def render (format : Format) (colored : Bool) (time : String) (r : Record) : String :=
  match format with
  | .json => (r.toValue time).compact ++ "\n"
  | .compact => r.compactLine colored time
  | .pretty => r.prettyLines colored time

end Record

end Admission.Log

/-
  Admission.Log.Record — what the program tells about itself while it runs.

  A record has a level, the part of the program that it is about, and a message; it may add numbers
  with names.  Its part and a line say where in the listing of the program it is written.
-/

namespace Admission.Log

/-- How much a record matters; from trace to error it matters more. -/
inductive Level where
  | trace
  | debug
  | info
  | warn
  | error
deriving DecidableEq

namespace Level

def name : Level → String
  | .trace => "TRACE"
  | .debug => "DEBUG"
  | .info => "INFO"
  | .warn => "WARN"
  | .error => "ERROR"

/-- How verbose a log has to be to hold records of the level. -/
def verbosity : Level → Nat
  | .trace => 5
  | .debug => 4
  | .info => 3
  | .warn => 2
  | .error => 1

end Level

/-- A record. -/
structure Record where
  level : Level
  /-- The part of the program that the record is about. -/
  target : String
  /-- The line of the listing that writes the record. -/
  line : Nat
  message : String
  numbers : List (String × Nat) := []
deriving DecidableEq

namespace Record

/-- The names of what a record holds. -/
def fieldNames (r : Record) : List String := "message" :: r.numbers.map (·.1)

end Record

/-- The file of the listing that holds a part: a path below the sources, and `main` for the program as
a whole. -/
def listingOf (target : String) : String :=
  let steps := (target.splitOn "::").drop 1
  "src/" ++ String.intercalate "/" (if steps.isEmpty then ["main"] else steps) ++ ".rs"

/-! ## Parts of the program. -/

def mainTarget : String := "throttle_gate"
def configTarget : String := "throttle_gate::config"
def serverTarget : String := "throttle_gate::http::server"

end Admission.Log

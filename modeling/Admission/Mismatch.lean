/-
  Admission.Mismatch — how a value that was read can fail to be what was expected.

  The same causes arise whatever format the value was written in; each names what was FOUND and what
  was EXPECTED, and has one wording.
-/
import Admission.Text.Quoted

namespace Admission

/-- A value that was found where another kind was expected. -/
inductive Found where
  | null
  | boolean (b : Bool)
  | integer (n : Int)
  /-- A number with a fraction, by its text. -/
  | float (text : String)
  | text (s : String)
  | sequence
  | map
  | unitVariant
deriving DecidableEq

def Found.render : Found → String
  | .null => "null"
  | .boolean b => "boolean `" ++ (if b then "true" else "false") ++ "`"
  | .integer n => "integer `" ++ toString n ++ "`"
  | .float t => "floating point `" ++ t ++ "`"
  | .text s => "string " ++ Text.quote s
  | .sequence => "sequence"
  | .map => "map"
  | .unitVariant => "unit variant"

/-- Why a value is not what was expected. -/
inductive Mismatch where
  | kind (found : Found) (expected : String)
  | range (found : Found) (expected : String)
  | length (count : Nat) (expected : String)
  | missingField (name : String)
  | duplicateField (name : String)
  | unknownVariant (name : String) (known : List String)
deriving DecidableEq

namespace Mismatch

/-- Names in a row, each between backticks. -/
def listNames : List String → String
  | [] => ""
  | [n] => "`" ++ n ++ "`"
  | n :: r => "`" ++ n ++ "`, " ++ listNames r

/-- The wording of each cause. -/
def message : Mismatch → String
  | .kind found expected => "invalid type: " ++ found.render ++ ", expected " ++ expected
  | .range found expected => "invalid value: " ++ found.render ++ ", expected " ++ expected
  | .length count expected =>
    "invalid length " ++ toString count ++ ", expected " ++ expected
  | .missingField name => "missing field `" ++ name ++ "`"
  | .duplicateField name => "duplicate field `" ++ name ++ "`"
  | .unknownVariant name known =>
    "unknown variant `" ++ name ++ "`, expected one of " ++ listNames known

/-- What a record of `count` fields expects of a sequence. -/
def recordLength (name : String) (count : Nat) : String :=
  "struct " ++ name ++ " with " ++ toString count ++ " elements"

end Mismatch

end Admission

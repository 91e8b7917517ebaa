/-
  Admission.Toml.Value — what a settings text holds.

  A value is a scalar, an array or a table.  A moment (a date, a time or both) is checked when it is
  read, and then only known to be one.
-/
import Admission.Mismatch
import Admission.Decimal.Shortest

namespace Admission.Toml

/-- A value of a settings text; the keys of a table differ and keep their order. -/
inductive Value where
  | text (s : String)
  | integer (n : Int)
  | float (x : Float)
  | boolean (b : Bool)
  | moment
  | array (items : List Value)
  | table (entries : List (String × Value))
deriving Inhabited

/-- The value as it is named in a mismatch; a moment counts as a table. -/
def Value.found : Value → Found
  | .text s => .text s
  | .integer n => .integer n
  | .float x => .float (Decimal.render .plain x)
  | .boolean b => .boolean b
  | .moment => .map
  | .array _ => .sequence
  | .table _ => .map

end Admission.Toml

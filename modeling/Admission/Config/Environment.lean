/-
  Admission.Config.Environment — the settings that variables of the environment give.

  A variable that is not set, or is no text, says nothing.  One that should hold a number or a truth
  value and does not is ignored, and that is worth a warning.
-/
import Admission.Config.Layer
import Admission.Numeral
import Admission.Text.Raw

namespace Admission.Config

/-- The variables that are set. -/
structure Environment where
  bindings : List (String × Text.Raw) := []
deriving DecidableEq

/-! ## §1. Values of variables. -/

def word16? (s : String) : Option UInt16 :=
  (Numeral.read .word16 s).toOption.map fun n => .ofNat n.toNat

def word64? (s : String) : Option UInt64 :=
  (Numeral.read .word64 s).toOption.map fun n => .ofNat n.toNat

def int64? (s : String) : Option Int64 := (Numeral.read .int64 s).toOption.map .ofInt

def boolean? (s : String) : Option Bool :=
  if s = "true" then some true else if s = "false" then some false else none

namespace Environment

/-- The value of a variable, if it is set and a text. -/
def text? (e : Environment) (name : String) : Option String :=
  (e.bindings.lookup name).bind Text.Raw.text?

/-- The value of a variable, if it reads as what is wanted. -/
def value? {α : Type} (e : Environment) (name : String) (read : String → Option α) : Option α :=
  (e.text? name).bind read

/-- The environment with one more variable, or with a variable changed. -/
def set (e : Environment) (name : String) (value : Text.Raw) : Environment :=
  ⟨e.bindings.filter (fun p => p.1 ≠ name) ++ [(name, value)]⟩

/-! ## §2. The layer. -/

/-- What the environment says about the settings. -/
def layer (e : Environment) : Layer :=
  { host := e.text? "THROTTLE_HOST"
    port := e.value? "THROTTLE_PORT" word16?
    requestTimeoutMs := e.value? "THROTTLE_REQUEST_TIMEOUT_MS" word64?
    logLevel := e.text? "THROTTLE_LOG_LEVEL"
    limit := e.value? "THROTTLE_LIMIT" int64?
    backlogLimit := e.value? "THROTTLE_BACKLOG_LIMIT" int64?
    backlogTimeoutMs := e.value? "THROTTLE_BACKLOG_TIMEOUT_MS" word64?
    unboundedBacklogWait := e.value? "THROTTLE_UNBOUNDED_BACKLOG_WAIT" boolean?
    statusCode := e.value? "THROTTLE_STATUS_CODE" word16?
    retryAfterSecs := e.value? "THROTTLE_RETRY_AFTER_SECS" word64?
    retryAfterCancelledSecs := e.value? "THROTTLE_RETRY_AFTER_CANCELLED_SECS" word64? }

/-- The variables whose texts have to be read, in the order in which that is done, and whether a
text can be. -/
def readVariables : List (String × (String → Bool)) :=
  [("THROTTLE_PORT", fun s => (word16? s).isSome),
   ("THROTTLE_REQUEST_TIMEOUT_MS", fun s => (word64? s).isSome),
   ("THROTTLE_LIMIT", fun s => (int64? s).isSome),
   ("THROTTLE_BACKLOG_LIMIT", fun s => (int64? s).isSome),
   ("THROTTLE_BACKLOG_TIMEOUT_MS", fun s => (word64? s).isSome),
   ("THROTTLE_UNBOUNDED_BACKLOG_WAIT", fun s => (boolean? s).isSome),
   ("THROTTLE_STATUS_CODE", fun s => (word16? s).isSome),
   ("THROTTLE_RETRY_AFTER_SECS", fun s => (word64? s).isSome),
   ("THROTTLE_RETRY_AFTER_CANCELLED_SECS", fun s => (word64? s).isSome)]

/-- The variables that are ignored because their texts cannot be read, with these texts. -/
def ignored (e : Environment) : List (String × String) :=
  readVariables.filterMap fun (name, readable) =>
    match e.text? name with
    | some s => if readable s then none else some (name, s)
    | none => none

end Environment

end Admission.Config

/-
  Admission.Failure — the failures that the server reports to its clients and its log.

  A failure has a kind and a detail.  The kind fixes the words in front of the detail, the status of
  the answer, and a code that clients can rely on.  The report of a failure is the code, the full
  message and the time.
-/
import Admission.Options
import Admission.Json.Shape

namespace Admission

/-! ## §1. Failures. -/

inductive FailureKind where
  | configuration
  | network
  | notFound
  | serviceUnavailable
deriving DecidableEq

namespace FailureKind

/-- The name of a kind, which is also its code in reports. -/
def name : FailureKind → String
  | .configuration => "Configuration"
  | .network => "Network"
  | .notFound => "NotFound"
  | .serviceUnavailable => "ServiceUnavailable"

def number : FailureKind → Nat
  | .network => 2001
  | .configuration => 2003
  | .serviceUnavailable => 5000
  | .notFound => 5005

def status : FailureKind → Status
  | .notFound => .notFound
  | .serviceUnavailable => .serviceUnavailable
  | .configuration => .internalServerError
  | .network => .internalServerError

/-- The words in front of the detail. -/
def heading : FailureKind → String
  | .configuration => "Configuration error: "
  | .network => "Network error: "
  | .notFound => "Not found: "
  | .serviceUnavailable => "Service unavailable: "

def ofName? (s : String) : Option FailureKind :=
  if s = "Configuration" then some .configuration
  else if s = "Network" then some .network
  else if s = "NotFound" then some .notFound
  else if s = "ServiceUnavailable" then some .serviceUnavailable
  else none

theorem ofName?_name (k : FailureKind) : ofName? k.name = some k := by
  cases k <;> decide

end FailureKind

/-- A failure of the server. -/
structure Failure where
  kind : FailureKind
  detail : String
deriving DecidableEq

namespace Failure

def message (f : Failure) : String := f.kind.heading ++ f.detail

/-- Unsound options are a failure of the configuration. -/
def ofOptions (e : OptionsError) : Failure := ⟨.configuration, e.message⟩

/-- A failure of the system is one of the network. -/
def ofSystem (detail : String) : Failure := ⟨.network, detail⟩

/-- The document of a failure. -/
def toValue (f : Failure) : Json.Value := .object [(f.kind.name, .text f.detail)]

def shape : Json.Shape :=
  .choice ["Configuration", "Network", "NotFound", "ServiceUnavailable"] .text

def ofValue? : Json.Value → Option Failure
  | .object [(name, .text detail)] => (FailureKind.ofName? name).map (⟨·, detail⟩)
  | _ => none

theorem ofValue?_toValue (f : Failure) : ofValue? f.toValue = some f := by
  simp [ofValue?, toValue, FailureKind.ofName?_name]

end Failure

namespace FailureKind

/-- The document of a code. -/
def toValue (k : FailureKind) : Json.Value := .text k.name

def shape : Json.Shape :=
  .choice ["Network", "Configuration", "ServiceUnavailable", "NotFound"] .none

def ofValue? : Json.Value → Option FailureKind
  | .text name => ofName? name
  | _ => none

end FailureKind

/-! ## §2. Reports. -/

/-- What a client is told of a failure. -/
structure FailureReport where
  code : FailureKind
  message : String
  /-- Seconds since the epoch. -/
  timestamp : UInt64
deriving DecidableEq

namespace FailureReport

def ofFailure (f : Failure) (timestamp : UInt64) : FailureReport :=
  ⟨f.kind, f.message, timestamp⟩

/-- The document of a report. -/
def toValue (r : FailureReport) : Json.Value :=
  .object [("code", r.code.toValue), ("message", .text r.message),
    ("timestamp", .ofNat r.timestamp.toNat)]

def shape : Json.Shape :=
  .record "ErrorResponse" [("code", FailureKind.shape), ("message", .text), ("timestamp", .word64)]

def ofValue? (v : Json.Value) : Option FailureReport := do
  let code ← FailureKind.ofValue? (← v.member? "code")
  let message ← (← v.member? "message").asText?
  let timestamp ← (← v.member? "timestamp").asInt?
  some ⟨code, message, .ofNat timestamp.toNat⟩

end FailureReport

end Admission

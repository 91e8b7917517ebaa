/-
  Admission.Config.File — what a settings file says.

  A settings file has a section on the server, one on the gate and one on logging, all of which may
  be missing.  Logging can be looked at on its own: what is wrong in another section does not matter
  then.
-/
import Admission.Config.Layer
import Admission.Toml.Document
import Admission.Toml.Record

namespace Admission.Config

/-! ## §1. The sections. -/

/-- What a file says about logging. -/
structure Logging where
  level : Option String := none
  format : Option String := none
  file : Option String := none
deriving DecidableEq

/-- The fields of the section on the server. -/
def serverFields : List (Toml.Field Layer) :=
  [⟨"host", fun v l => do return { l with host := ← v.asText }⟩,
   ⟨"port", fun v l => do return { l with port := ← v.asWord16 }⟩,
   ⟨"request_timeout_ms", fun v l => do return { l with requestTimeoutMs := ← v.asWord64 }⟩,
   ⟨"work_delay_ms", fun v l => do return { l with workDelayMs := ← v.asWord64 }⟩,
   ⟨"enable_metrics", fun v l => do return { l with enableMetrics := ← v.asBoolean }⟩,
   ⟨"stats_interval_secs", fun v l => do return { l with statsIntervalSecs := ← v.asWord64 }⟩]

/-- The fields of the section on the gate. -/
def gateFields : List (Toml.Field Layer) :=
  [⟨"limit", fun v l => do return { l with limit := ← v.asInt64 }⟩,
   ⟨"backlog_limit", fun v l => do return { l with backlogLimit := ← v.asInt64 }⟩,
   ⟨"backlog_timeout_ms", fun v l => do return { l with backlogTimeoutMs := ← v.asWord64 }⟩,
   ⟨"unbounded_backlog_wait",
     fun v l => do return { l with unboundedBacklogWait := ← v.asBoolean }⟩,
   ⟨"status_code", fun v l => do return { l with statusCode := ← v.asWord16 }⟩,
   ⟨"retry_after_secs", fun v l => do return { l with retryAfterSecs := ← v.asWord64 }⟩,
   ⟨"retry_after_cancelled_secs",
     fun v l => do return { l with retryAfterCancelledSecs := ← v.asWord64 }⟩]

/-- The fields of the section on logging. -/
def loggingFields : List (Toml.Field Logging) :=
  [⟨"level", fun v l => do return { l with level := ← v.asText }⟩,
   ⟨"format", fun v l => do return { l with format := ← v.asText }⟩,
   ⟨"file", fun v l => do return { l with file := ← v.asText }⟩]

/-- The section on logging. -/
def putLogging (v : Toml.Value) (l : Logging) : Except Mismatch Logging :=
  v.putRecord "TomlLoggingConfig" loggingFields l

/-! ## §2. The file. -/

/-- What a file says about the settings, and about logging. -/
structure File where
  layer : Layer := {}
  logging : Logging := {}
deriving DecidableEq

/-- The sections of a file. -/
def File.sections : List (Toml.Field File) :=
  [⟨"server", fun v f => do
     return { f with layer := ← v.putRecord "TomlServerConfig" serverFields f.layer }⟩,
   ⟨"throttle", fun v f => do
     return { f with layer := ← v.putRecord "TomlThrottleConfig" gateFields f.layer }⟩,
   ⟨"logging", fun v f => do
     let logging ← putLogging v f.logging
     return { layer := { f.layer with logLevel := logging.level }, logging }⟩]

/-- Why a text is not a settings file. -/
inductive FileFault where
  | malformed
  | mismatch (m : Mismatch)
deriving DecidableEq

/-- What is wrong with the text; where it is wrong is not said. -/
def FileFault.message : FileFault → String
  | .malformed => "TOML parse error"
  | .mismatch m => "TOML parse error: " ++ m.message

/-- Reads a text as a record with the fields given. -/
def readAs {σ : Type} (fields : List (Toml.Field σ)) (empty : σ) (text : String) :
    Except FileFault σ :=
  match Toml.read text with
  | none => .error .malformed
  | some entries =>
    match Toml.putEntries fields entries empty with
    | .ok s => .ok s
    | .error m => .error (.mismatch m)

/-- Reads a settings file. -/
def File.read (text : String) : Except FileFault File :=
  readAs File.sections {} text

/-- What a file says about logging, whatever its other sections hold; nothing if it is not even a
settings text. -/
def Logging.glance (text : String) : Logging :=
  match readAs [⟨"logging", putLogging⟩] {} text with
  | .ok l => l
  | .error _ => {}

end Admission.Config

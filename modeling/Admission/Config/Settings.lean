/-
  Admission.Config.Settings — the settings of the server, their defaults, and what they ask for.

  Settings come from the outside and are checked before a gate is built from them: the limits first,
  the status code afterwards.  The status code 0 stands for the default.  Advice for cancelled
  requests counts only beside advice for the others, and repeats that one if it is not given.
-/
import Admission.Gate.Basic
import Admission.Json.Shape

namespace Admission.Config

/-- The place of the settings file where none is named. -/
def usualPath : String := "config.toml"

/-! ## §1. Settings of the gate. -/

/-- The settings of the gate and its refusals. -/
structure GateSettings where
  /-- How many requests run at once; must be positive. -/
  limit : Int64
  /-- How many more may wait; must not be negative. -/
  backlogLimit : Int64
  /-- How long they may wait, in milliseconds. -/
  backlogTimeoutMs : UInt64
  /-- They may wait without end. -/
  unboundedBacklogWait : Bool
  /-- The status of refusals; 0 is the default. -/
  statusCode : UInt16
  retryAfterSecs : Option UInt64
  retryAfterCancelledSecs : Option UInt64
deriving DecidableEq

namespace GateSettings

/-- The settings that hold where nothing is set. -/
def standard : GateSettings :=
  { limit := 64, backlogLimit := 128, backlogTimeoutMs := 5000, unboundedBacklogWait := false
    statusCode := 429, retryAfterSecs := none, retryAfterCancelledSecs := none }

def wait (s : GateSettings) : BacklogWait :=
  if s.unboundedBacklogWait then .unbounded else .upTo (.ofMillis s.backlogTimeoutMs.toNat)

/-- The advice of the settings: seconds for refusals by the gate, and for cancelled requests. -/
def retryAdvice? (s : GateSettings) : Option RetryAdvice :=
  s.retryAfterSecs.map fun secs cancelled =>
    if cancelled then .ofSecs (s.retryAfterCancelledSecs.getD secs).toNat else .ofSecs secs.toNat

/-- The options that the settings ask for. -/
def toOptions (s : GateSettings) : Except OptionsError Options :=
  match Options.ofSigned s.limit s.backlogLimit s.wait with
  | .error e => .error e
  | .ok o =>
    let o := { o with retryAfter := s.retryAdvice? }
    if s.statusCode = 0 then .ok o
    else match Status.ofNat? s.statusCode.toNat with
      | some status => .ok (o.withStatus status)
      | none => .error (.invalidStatus s.statusCode.toNat)

/-- The document of the settings. -/
def toValue (s : GateSettings) : Json.Value :=
  .object
    [("limit", .integer s.limit.toInt),
     ("backlog_limit", .integer s.backlogLimit.toInt),
     ("backlog_timeout_ms", .ofNat s.backlogTimeoutMs.toNat),
     ("unbounded_backlog_wait", .boolean s.unboundedBacklogWait),
     ("status_code", .ofNat s.statusCode.toNat),
     ("retry_after_secs", .ofOption (fun n : UInt64 => .ofNat n.toNat) s.retryAfterSecs),
     ("retry_after_cancelled_secs",
       .ofOption (fun n : UInt64 => .ofNat n.toNat) s.retryAfterCancelledSecs)]

def shape : Json.Shape :=
  .record "ThrottleConfig"
    [("limit", .int64), ("backlog_limit", .int64), ("backlog_timeout_ms", .word64),
     ("unbounded_backlog_wait", .boolean), ("status_code", .word16),
     ("retry_after_secs", .optional .word64), ("retry_after_cancelled_secs", .optional .word64)]

/-- A member that holds a word, or null. -/
def optionalWord? (v : Json.Value) (name : String) : Option (Option UInt64) :=
  match v.member? name with
  | some .null => some none
  | some (.integer n) => some (some (.ofNat n.toNat))
  | _ => none

def ofValue? (v : Json.Value) : Option GateSettings := do
  let integer (name : String) : Option Int := do (← v.member? name).asInt?
  some
    { limit := .ofInt (← integer "limit")
      backlogLimit := .ofInt (← integer "backlog_limit")
      backlogTimeoutMs := .ofNat (← integer "backlog_timeout_ms").toNat
      unboundedBacklogWait := ← (← v.member? "unbounded_backlog_wait").asBool?
      statusCode := .ofNat (← integer "status_code").toNat
      retryAfterSecs := ← optionalWord? v "retry_after_secs"
      retryAfterCancelledSecs := ← optionalWord? v "retry_after_cancelled_secs" }

end GateSettings

/-! ## §2. Settings of the server. -/

/-- All settings. -/
structure Settings where
  host : String
  port : UInt16
  /-- How long a request may take at all, in milliseconds; not limited where absent. -/
  requestTimeoutMs : Option UInt64
  workDelayMs : UInt64
  enableMetrics : Bool
  statsIntervalSecs : UInt64
  logLevel : String
  gate : GateSettings
deriving DecidableEq

namespace Settings

/-- The settings that hold where nothing is set. -/
def standard : Settings :=
  { host := "0.0.0.0", port := 8080, requestTimeoutMs := none, workDelayMs := 100
    enableMetrics := false, statsIntervalSecs := 15, logLevel := "info", gate := .standard }

def bindAddress (s : Settings) : String := s.host ++ ":" ++ toString s.port.toNat

def requestTimeout (s : Settings) : Option Duration :=
  s.requestTimeoutMs.map fun n => .ofMillis n.toNat

def workDelay (s : Settings) : Duration := .ofMillis s.workDelayMs.toNat

/-- The document of the settings. -/
def toValue (s : Settings) : Json.Value :=
  .object
    [("host", .text s.host),
     ("port", .ofNat s.port.toNat),
     ("request_timeout_ms", .ofOption (fun n : UInt64 => .ofNat n.toNat) s.requestTimeoutMs),
     ("work_delay_ms", .ofNat s.workDelayMs.toNat),
     ("enable_metrics", .boolean s.enableMetrics),
     ("stats_interval_secs", .ofNat s.statsIntervalSecs.toNat),
     ("log_level", .text s.logLevel),
     ("throttle", s.gate.toValue)]

def shape : Json.Shape :=
  .record "ServerConfig"
    [("host", .text), ("port", .word16), ("request_timeout_ms", .optional .word64),
     ("work_delay_ms", .word64), ("enable_metrics", .boolean), ("stats_interval_secs", .word64),
     ("log_level", .text), ("throttle", GateSettings.shape)]

def ofValue? (v : Json.Value) : Option Settings := do
  let integer (name : String) : Option Int := do (← v.member? name).asInt?
  some
    { host := ← (← v.member? "host").asText?
      port := .ofNat (← integer "port").toNat
      requestTimeoutMs := ← GateSettings.optionalWord? v "request_timeout_ms"
      workDelayMs := .ofNat (← integer "work_delay_ms").toNat
      enableMetrics := ← (← v.member? "enable_metrics").asBool?
      statsIntervalSecs := .ofNat (← integer "stats_interval_secs").toNat
      logLevel := ← (← v.member? "log_level").asText?
      gate := ← GateSettings.ofValue? (← v.member? "throttle") }

end Settings

end Admission.Config

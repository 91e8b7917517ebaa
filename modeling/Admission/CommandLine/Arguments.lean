/-
  Admission.CommandLine.Arguments — what a command line asks for.

  A command line sets settings, says how to log, and may name a command.  How much is logged follows,
  from the strongest: quiet, development mode, the level that was named, how often more was asked for.
-/
import Admission.Config.Layer

namespace Admission.CommandLine

/-- What is done instead of serving. -/
inductive Command where
  | generate (path : String)
  | validate (path : String)
  | showSettings
deriving DecidableEq

/-- What the arguments say. -/
structure Arguments where
  configFile : Option String := none
  host : Option String := none
  port : Option UInt16 := none
  limit : Option Int64 := none
  backlogLimit : Option Int64 := none
  backlogTimeoutMs : Option UInt64 := none
  unboundedBacklogWait : Bool := false
  statusCode : Option UInt16 := none
  retryAfterSecs : Option UInt64 := none
  retryAfterCancelledSecs : Option UInt64 := none
  requestTimeoutMs : Option UInt64 := none
  workDelayMs : Option UInt64 := none
  logLevel : Option String := none
  logFormat : Option String := none
  logFile : Option String := none
  enableMetrics : Bool := false
  /-- How often more was asked for. -/
  verbosity : UInt8 := 0
  quiet : Bool := false
  development : Bool := false
  command : Option Command := none
deriving DecidableEq

namespace Arguments

/-- The level that a number of requests for more stands for. -/
def levelOfVerbosity (n : UInt8) : Option String :=
  if n = 0 then none
  else if n = 1 then some "info"
  else if n = 2 then some "debug"
  else some "trace"

/-- How much is logged. -/
def effectiveLevel (a : Arguments) : Option String :=
  if a.quiet then some "error"
  else if a.development then some "debug"
  else a.logLevel <|> levelOfVerbosity a.verbosity

/-- How log lines look. -/
def effectiveFormat (a : Arguments) : Option String :=
  if a.development then some "pretty" else a.logFormat

/-- A switch can turn a setting on, but not off. -/
def ofSwitch (on : Bool) : Option Bool := if on then some true else none

/-- What the arguments say about the settings. -/
def layer (a : Arguments) : Config.Layer :=
  { host := a.host
    port := a.port
    requestTimeoutMs := a.requestTimeoutMs
    workDelayMs := a.workDelayMs
    enableMetrics := ofSwitch a.enableMetrics
    logLevel := a.effectiveLevel
    limit := a.limit
    backlogLimit := a.backlogLimit
    backlogTimeoutMs := a.backlogTimeoutMs
    unboundedBacklogWait := ofSwitch a.unboundedBacklogWait
    statusCode := a.statusCode
    retryAfterSecs := a.retryAfterSecs
    retryAfterCancelledSecs := a.retryAfterCancelledSecs }

end Arguments

end Admission.CommandLine

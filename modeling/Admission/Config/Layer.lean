/-
  Admission.Config.Layer — settings that one source gives, laid over those of the sources before it.

  A layer says for each setting either nothing or its value.  Laying it over settings replaces those
  that it gives and keeps the others, each on its own.
-/
import Admission.Config.Settings

namespace Admission.Config

/-- What one source says about each setting. -/
@[ext]
structure Layer where
  host : Option String := none
  port : Option UInt16 := none
  requestTimeoutMs : Option UInt64 := none
  workDelayMs : Option UInt64 := none
  enableMetrics : Option Bool := none
  statsIntervalSecs : Option UInt64 := none
  logLevel : Option String := none
  limit : Option Int64 := none
  backlogLimit : Option Int64 := none
  backlogTimeoutMs : Option UInt64 := none
  unboundedBacklogWait : Option Bool := none
  statusCode : Option UInt16 := none
  retryAfterSecs : Option UInt64 := none
  retryAfterCancelledSecs : Option UInt64 := none
deriving DecidableEq

/-- The settings of the gate with a layer over them. -/
def GateSettings.under (s : GateSettings) (l : Layer) : GateSettings :=
  { limit := l.limit.getD s.limit
    backlogLimit := l.backlogLimit.getD s.backlogLimit
    backlogTimeoutMs := l.backlogTimeoutMs.getD s.backlogTimeoutMs
    unboundedBacklogWait := l.unboundedBacklogWait.getD s.unboundedBacklogWait
    statusCode := l.statusCode.getD s.statusCode
    retryAfterSecs := l.retryAfterSecs <|> s.retryAfterSecs
    retryAfterCancelledSecs := l.retryAfterCancelledSecs <|> s.retryAfterCancelledSecs }

/-- The settings with a layer over them. -/
def Settings.under (s : Settings) (l : Layer) : Settings :=
  { host := l.host.getD s.host
    port := l.port.getD s.port
    requestTimeoutMs := l.requestTimeoutMs <|> s.requestTimeoutMs
    workDelayMs := l.workDelayMs.getD s.workDelayMs
    enableMetrics := l.enableMetrics.getD s.enableMetrics
    statsIntervalSecs := l.statsIntervalSecs.getD s.statsIntervalSecs
    logLevel := l.logLevel.getD s.logLevel
    gate := s.gate.under l }

/-- A layer that says nothing changes nothing. -/
theorem Settings.under_empty (s : Settings) : s.under {} = s := by
  cases s
  simp [Settings.under, GateSettings.under]

end Admission.Config

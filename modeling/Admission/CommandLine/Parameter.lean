/-
  Admission.CommandLine.Parameter — the parameters that a command line may hold.

  A parameter has a long name, a short one or both.  It is a switch, counts how often it is given,
  takes a value, or asks for the help text or the version.  The same table serves for reading a
  command line and for its help text.
-/
import Admission.CommandLine.Arguments
import Admission.Numeral

namespace Admission.CommandLine

/-! ## §1. Values. -/

def readWord64 (s : String) : Except String UInt64 :=
  match Numeral.read .word64 s with
  | .ok n => .ok (.ofNat n.toNat)
  | .error e => .error e.message

def readInt64 (s : String) : Except String Int64 :=
  match Numeral.read .int64 s with
  | .ok n => .ok (.ofInt n)
  | .error e => .error e.message

/-- A small word is read as a wide integer, and then has to lie within its bounds. -/
def readWord16 (s : String) : Except String UInt16 :=
  match Numeral.read .int64 s with
  | .ok n =>
    if Width.word16.contains n then .ok (.ofNat n.toNat)
    else .error (Numeral.render n ++ " is not in 0..=65535")
  | .error e => .error e.message

/-! ## §2. Parameters. -/

/-- What a parameter does. -/
inductive Effect where
  | switch (turnOn : Arguments → Arguments)
  | count
  /-- A value of the name given; the text of a negative number may stand for itself. -/
  | value (name : String) (negative : Bool) (set : String → Arguments → Except String Arguments)
  | help
  | version

structure Parameter where
  long : Option String := none
  short : Option Char := none
  effect : Effect
  about : String

namespace Parameter

/-- The parameter as it is named to the user. -/
def display (p : Parameter) : String :=
  match p.long, p.short, p.effect with
  | some l, _, .value name _ _ => "--" ++ l ++ " <" ++ name ++ ">"
  | some l, _, _ => "--" ++ l
  | none, some s, .count => String.ofList ['-', s] ++ "..."
  | none, some s, _ => String.ofList ['-', s]
  | none, none, _ => ""

/-- The parameter takes a value. -/
def takesValue (p : Parameter) : Bool :=
  match p.effect with
  | .value _ _ _ => true
  | _ => false

/-- The value of the parameter may look like a negative number. -/
def allowsNegative (p : Parameter) : Bool :=
  match p.effect with
  | .value _ negative _ => negative
  | _ => false

/-- Asks for the help text. -/
def helpRequest : Parameter :=
  { long := some "help", short := some 'h', effect := .help, about := "Print help" }

/-- Asks for the version. -/
def versionRequest : Parameter :=
  { long := some "version", short := some 'V', effect := .version, about := "Print version" }

/-- A parameter with a text. -/
def text (long name about : String) (put : String → Arguments → Arguments) : Parameter :=
  { long := some long, effect := .value name false fun s a => .ok (put s a), about }

/-- A parameter with a value that is read from a text. -/
def number {α : Type} (long name about : String) (negative : Bool) (read : String → Except String α)
    (put : α → Arguments → Arguments) : Parameter :=
  { long := some long
    effect := .value name negative fun s a => (read s).map fun x => put x a
    about }

/-- All parameters, in the order of the help text. -/
def all : List Parameter :=
  [text "config-file" "FILE" "指定配置文件路径" fun s a => { a with configFile := s },
   text "host" "ADDRESS" "服务器监听地址" fun s a => { a with host := s },
   number "port" "PORT" "HTTP 监听端口" false readWord16 fun n a => { a with port := n },
   number "limit" "NUM" "并发上限（必须大于 0）" true readInt64 fun n a => { a with limit := n },
   number "backlog-limit" "NUM" "允许排队的请求数（0 表示不排队）" true readInt64
     fun n a => { a with backlogLimit := n },
   number "backlog-timeout-ms" "MS" "排队最长等待时间（0 表示不等待）" false readWord64
     fun n a => { a with backlogTimeoutMs := n },
   { long := some "unbounded-backlog-wait"
     effect := .switch fun a => { a with unboundedBacklogWait := true }
     about := "排队请求一直等到执行槽释放或请求被取消" },
   number "status-code" "CODE" "拒绝时返回的 HTTP 状态码（默认 429）" false readWord16
     fun n a => { a with statusCode := n },
   number "retry-after-secs" "SECS" "拒绝响应携带的 Retry-After 秒数" false readWord64
     fun n a => { a with retryAfterSecs := n },
   number "retry-after-cancelled-secs" "SECS"
     "请求被取消或超过截止时间时的 Retry-After 秒数（默认同 --retry-after-secs）" false readWord64
     fun n a => { a with retryAfterCancelledSecs := n },
   number "request-timeout-ms" "MS" "整个请求的截止时间，超时返回 504" false readWord64
     fun n a => { a with requestTimeoutMs := n },
   number "work-delay-ms" "MS" "演示路由每个请求的处理耗时" false readWord64
     fun n a => { a with workDelayMs := n },
   text "log-level" "LEVEL" "日志级别: trace, debug, info, warn, error"
     fun s a => { a with logLevel := s },
   text "log-format" "FORMAT" "日志格式: pretty, json, compact" fun s a => { a with logFormat := s },
   text "log-file" "PATH" "日志输出文件路径" fun s a => { a with logFile := s },
   { long := some "enable-metrics", effect := .switch fun a => { a with enableMetrics := true }
     about := "启用 Prometheus 监控指标" },
   { short := some 'v', effect := .count, about := "详细输出级别" },
   { long := some "quiet", short := some 'q', effect := .switch fun a => { a with quiet := true }
     about := "静默模式（不输出日志）" },
   { long := some "dev", effect := .switch fun a => { a with development := true }
     about := "启用开发模式" },
   helpRequest,
   versionRequest]

end Parameter

end Admission.CommandLine

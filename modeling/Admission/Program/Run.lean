/-
  Admission.Program.Run — the program, from its command line to its end.

  It writes a settings file, checks one, shows the settings that hold, or serves until it is
  interrupted.  What it sees of the world is given to it: files, environment, network and time.
-/
import Admission.CommandLine.Read
import Admission.Config.Load
import Admission.Dotenv
import Admission.Log.Logger
import Admission.Network
import Admission.Program.Outcome
import Admission.Program.Template
import Admission.Server

namespace Admission.Program

open CommandLine (Arguments)
open Config (LoadError Logging Settings Sources)
open Log (Logger Record)

/-! ## §1. The world. -/

/-- What the program is started with. -/
structure Invocation where
  /-- The command line, without the name of the program. -/
  words : List String
  files : Files
  environment : Config.Environment
  network : Network
  /-- The time, as records show it. -/
  time : String

namespace Invocation

/-- The sources of the settings. -/
def sources (i : Invocation) (a : Arguments) : Sources :=
  { files := i.files, environment := i.environment, path := a.configFile, arguments := a.layer }

/-! ## §2. Files of settings. -/

/-- Writes the standard settings to a file. -/
def generate (i : Invocation) (path : String) : Outcome :=
  match i.files.writeText path template with
  | .ok fs => .done fs ("✅ 配置文件已生成: " ++ path ++ "\n")
  | .error fault => .failed i.files "" ["无法写入配置文件: " ++ path, fault.message]

/-- The address, the limits and the wait of settings, a line for each. -/
def summary (s : Settings) : List String :=
  ["  - Listen: " ++ s.bindAddress,
   "  - Limit: " ++ Numeral.render s.gate.limit.toInt,
   "  - Backlog Limit: " ++ Numeral.render s.gate.backlogLimit.toInt,
   "  - Backlog Timeout: " ++ s.gate.wait.render]

/-- Lines as one text. -/
def unlines (ls : List String) : String := String.join (ls.map (· ++ "\n"))

/-- Checks a settings file. -/
def validate (i : Invocation) (path : String) : Outcome :=
  match Settings.ofFile i.files path with
  | .ok s => .done i.files (unlines (["✅ 配置文件有效: " ++ path, "📊 配置摘要:"] ++ summary s))
  | .error e => .failed i.files "" (("配置文件验证失败: " ++ path) :: e.causes)

/-! ## §3. Logs. -/

/-- The outcome when a log cannot be opened. -/
def unopened (i : Invocation) (complaints : String) (e : Log.OpenError) : Outcome :=
  let failed (causes : List String) : Outcome :=
    { exitCode := 1, stderr := complaints ++ report causes, files := i.files }
  match e with
  | .badPath path => failed ["日志文件路径无效: " ++ path]
  | .noDirectory directory fault =>
    failed ["无法创建日志目录: " ++ Text.quote directory, fault.message]
  | .noFile path fault =>
    { exitCode := 101
      stderr := complaints ++ "initializing rolling file appender failed: " ++
        Text.quote path ++ ": " ++ fault.message ++ "\n"
      files := i.files }

/-- The records of notices about the settings. -/
def noticeRecord (n : Config.Notice) : Record :=
  { level := if n.isWarning then .warn else .info, target := Log.configTarget
    line := n.line, message := n.message }

/-- Runs what opens a log: `body` gives the records, what is printed after them, the causes of a
failure, and the exit code. -/
def logged (i : Invocation) (setup : Log.Setup)
    (body : List Record × String × List String × Nat) : Outcome :=
  let complaints := unlines (Log.complaintsOf i.environment setup.level)
  match setup.opened i.environment i.files with
  | .error e => i.unopened complaints e
  | .ok (logger, fs) =>
    let (records, printed, causes, exitCode) := body
    let (text, fs) := logger.write i.time records fs
    { exitCode, stdout := text ++ printed, stderr := complaints ++ report causes, files := fs }

/-- What a failure to load the settings leaves. -/
def unloaded (records : List Record) (e : LoadError) :
    List Record × String × List String × Nat :=
  (records, "", "加载配置失败" :: e.causes, 1)

/-! ## §4. Showing the settings. -/

/-- Shows the settings that hold. -/
def showSettings (i : Invocation) (a : Arguments) : Outcome :=
  let sources := i.sources a
  let records := sources.notices.map noticeRecord
  i.logged { level := "info", format := none, file := none } <|
    match sources.load with
    | .error e => unloaded records e
    | .ok s => (records, "📊 最终配置（合并后的配置）:\n" ++ s.toValue.pretty ++ "\n", [], 0)

/-! ## §5. Serving. -/

/-- How a server logs: as the command line says, or else the settings file. -/
def loggingOf (i : Invocation) (a : Arguments) : Log.Setup :=
  let early := Logging.ofFile i.files a.configFile
  { level := (a.effectiveLevel <|> early.level).getD "info"
    format := a.effectiveFormat <|> early.format
    file := a.logFile <|> early.file }

/-- A record about the program as a whole, by a line of the listing. -/
def told (line : Nat) (message : String) : Record :=
  { level := .info, target := Log.mainTarget, line, message }

/-- A record about a failure of the program. -/
def lamented (line : Nat) (message : String) : Record := { told line message with level := .error }

/-- A record about the server. -/
def served (line : Nat) (message : String) : Record :=
  { told line message with target := Log.serverTarget }

/-- A span of time that may be absent. -/
def renderOptional : Option Duration → String
  | none => "None"
  | some d => "Some(" ++ d.render ++ ")"

/-- What a server tells about its settings, one thing after the other. -/
def account (setup : Log.Setup) (s : Settings) : List String :=
  ["📊 Server Configuration:"] ++ summary s ++
  ["  - Reject Status: " ++ toString s.gate.statusCode.toNat,
   "  - Request Timeout: " ++ renderOptional s.requestTimeout,
   "  - Work Delay: " ++ s.workDelay.render,
   "  - Metrics: " ++ (if s.enableMetrics then "true" else "false"),
   "  - Log Level: " ++ s.logLevel,
   "  - Log Format: " ++ Text.quote (setup.format.getD "compact")]

/-- The records about the settings of a server; the account takes a line of the listing each. -/
def settingsRecords (setup : Log.Setup) (a : Arguments) (s : Settings) : List Record :=
  (if a.development then [told 53 "🔧 开发模式已启用"] else []) ++
  ((account setup s).zipIdx 57).map (fun (message, line) => told line message) ++
  (match setup.file with
    | some file => [told 72 ("  - Log File: " ++ file)]
    | none => [])

/-- The record of the figures of a gate. -/
def figuresRecord (g : Gate) : Record :=
  let s := g.snapshot
  { level := .debug, target := Log.serverTarget, line := 101, message := "📊 闸门状态"
    numbers :=
      [("in_flight", s.inFlight.toNat), ("waiting", s.waiting.toNat),
       ("admitted", s.admitted.toNat)] }

/-- The records of a server that is interrupted once it listens, or that cannot listen, and the exit
code. -/
def serverRecords (i : Invocation) (s : Settings) : List Record × Nat :=
  match Server.ofSettings s with
  | .error f =>
    ([lamented 85 ("❌ 服务器初始化失败: " ++ f.message),
      lamented 86 "💡 请检查 [throttle] 配置后重试"], 1)
  | .ok server =>
    match i.network.listen s.host s.port.toNat with
    | .error fault =>
      ([lamented 93 ("❌ 服务器运行失败: " ++ (Failure.ofSystem fault.message).message),
        lamented 94 "💡 服务器将退出"], 1)
    | .ok () =>
      ([served 70 ("🌐 HTTP 服务器启动在 " ++ s.bindAddress), figuresRecord server.gate,
        served 113 "🛑 收到退出信号，正在关闭...", served 80 "👋 HTTP 服务器已停止"], 0)

/-- Serves until it is interrupted. -/
def serve (i : Invocation) (a : Arguments) : Outcome :=
  let setup := i.loggingOf a
  let sources := i.sources a
  let opening := told 47 "🚀 Throttle Gate starting..." :: sources.notices.map noticeRecord
  i.logged setup <|
    match sources.load with
    | .error e => unloaded opening e
    | .ok s =>
      let (records, exitCode) := i.serverRecords s
      (opening ++ settingsRecords setup a s ++ records, "", [], exitCode)

/-! ## §6. The whole. -/

/-- What is said after the cause when a command line is wrong. -/
def usageHint : String := "\n\nFor more information, try '--help'.\n"

/-- Runs the program. -/
def run (i : Invocation) : Outcome :=
  let i := { i with environment := Dotenv.load i.files i.environment }
  match CommandLine.read i.words with
  | .error (.usage e) => { exitCode := 2, stderr := e.message ++ usageHint, files := i.files }
  | .error (.help text) => .done i.files text
  | .error (.version text) => .done i.files text
  | .ok a =>
    match a.command with
    | some (.generate path) => i.generate path
    | some (.validate path) => i.validate path
    | some .showSettings => i.showSettings a
    | none => i.serve a

end Invocation

end Admission.Program

/-
  Admission.Program.Template — the settings file that the program writes for its user.

  It holds the standard settings, and says what each is for.
-/

namespace Admission.Program

/-- The lines of the file. -/
def templateLines : List String :=
  ["# Throttle Gate 配置文件",
   "# 此文件由 throttle-gate generate-config 生成",
   "",
   "[server]",
   "host = \"0.0.0.0\"",
   "port = 8080",
   "# 整个请求的截止时间，超时返回 504",
   "# request_timeout_ms = 30000",
   "work_delay_ms = 100",
   "enable_metrics = false",
   "stats_interval_secs = 15",
   "",
   "[throttle]",
   "# 同时执行的最大请求数（必须大于 0）",
   "limit = 64",
   "# 允许排队的请求数（0 表示不排队）",
   "backlog_limit = 128",
   "# 排队最长等待时间（0 表示不等待）",
   "backlog_timeout_ms = 5000",
   "unbounded_backlog_wait = false",
   "# 拒绝时返回的状态码（0 表示默认 429）",
   "status_code = 429",
   "# retry_after_secs = 1",
   "# retry_after_cancelled_secs = 5",
   "",
   "[logging]",
   "level = \"info\"",
   "format = \"compact\"",
   "# file = \"./logs/throttle-gate.log\"",
   ""]

/-- The text of the file. -/
def template : String := "\n".intercalate templateLines

end Admission.Program

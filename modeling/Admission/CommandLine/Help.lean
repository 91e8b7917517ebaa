/-
  Admission.CommandLine.Help — the help texts of the program and its commands.

  A help text says what is done, how it is asked for, and which commands, arguments and parameters
  there are; the descriptions of one section start in the same column.
-/
import Admission.CommandLine.Parameter

namespace Admission.CommandLine

/-! ## §1. Names. -/

def programName : String := "throttle-gate"

def versionText : String := programName ++ " 0.1.0\n"

/-- A command: its name, what it does, and what its argument is if it takes one. -/
structure CommandInfo where
  name : String
  about : String
  argument : Option String

def generateInfo : CommandInfo := ⟨"generate-config", "生成默认配置文件", some "输出文件路径"⟩
def validateInfo : CommandInfo := ⟨"validate-config", "验证配置文件", some "配置文件路径"⟩
def showInfo : CommandInfo := ⟨"show-config", "显示最终配置（合并后的配置）", none⟩
def helpInfo : CommandInfo :=
  ⟨"help", "Print this message or the help of the given subcommand(s)", none⟩

/-- All commands, in the order of the help text. -/
def allCommands : List CommandInfo := [generateInfo, validateInfo, showInfo, helpInfo]

/-! ## §2. Layout. -/

/-- The left column of a parameter. -/
def leftColumn (p : Parameter) : String :=
  match p.short, p.long with
  | none, _ => "    " ++ p.display
  | some _, none => p.display
  | some s, some _ => String.ofList ['-', s, ',', ' '] ++ p.display

/-- Rows of two columns under a title. -/
def rows (title : String) (pairs : List (String × String)) : String :=
  let width := pairs.foldl (fun w p => max w p.1.length) 0
  let row (p : String × String) : String :=
    "  " ++ p.1 ++ String.ofList (List.replicate (width - p.1.length) ' ') ++ "  " ++ p.2 ++ "\n"
  title ++ ":\n" ++ String.join (pairs.map row)

def parameterRows (ps : List Parameter) : String :=
  rows "Options" (ps.map fun p => (leftColumn p, p.about))

/-! ## §3. Texts. -/

/-- The help text of the program. -/
def mainHelp : String :=
  "限制同时执行的请求数，超出部分排队或直接拒绝\n\nUsage: " ++ programName ++
  " [OPTIONS] [COMMAND]\n\n" ++
  rows "Commands" (allCommands.map fun c => (c.name, c.about)) ++ "\n" ++
  parameterRows Parameter.all

/-- The help text of a command. -/
def commandHelp (c : CommandInfo) : String :=
  let usage := c.about ++ "\n\nUsage: " ++ programName ++ " " ++ c.name
  match c.argument with
  | some about =>
    usage ++ " [PATH]\n\n" ++
    rows "Arguments" [("[PATH]", about ++ " [default: " ++ Config.usualPath ++ "]")] ++ "\n" ++
    parameterRows [.helpRequest]
  | none => usage ++ "\n\n" ++ parameterRows [.helpRequest]

/-- The help text of the command that prints help texts. -/
def helpHelp : String :=
  helpInfo.about ++ "\n\nUsage: " ++ programName ++ " help [COMMAND]...\n\n" ++
  rows "Arguments" [("[COMMAND]...", "Print help for the subcommand(s)")]

end Admission.CommandLine

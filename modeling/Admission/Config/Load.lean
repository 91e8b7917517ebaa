/-
  Admission.Config.Load — the settings that hold, from all sources.

  The layers are, from below: the standard settings, the settings file, the environment and the
  command line.  A file that is named and missing is passed over; without a name, a file in the
  usual place is read if there is one.  A file is checked on its own, and the outcome once more.
-/
import Admission.Config.Environment
import Admission.Config.File
import Admission.Files
import Admission.Text.Quoted

namespace Admission.Config

/-! ## §1. Failures and notices. -/

/-- Why there are no settings. -/
inductive LoadError where
  | unreadable (path : String) (fault : Files.Fault)
  | malformed (fault : FileFault)
  | invalid (e : OptionsError)
deriving DecidableEq

/-- What happened, and then why. -/
def LoadError.causes : LoadError → List String
  | .unreadable path fault => ["无法读取配置文件: " ++ Text.quote path, fault.message]
  | .malformed fault => ["配置文件格式错误", fault.message]
  | .invalid e => ["限流配置无效", e.message]

/-- What is worth telling while settings are put together. -/
inductive Notice where
  | reading (path : String)
  | readingUsual
  | missing (path : String)
  | ignored (name value : String)
deriving DecidableEq

def Notice.message : Notice → String
  | .reading path => "📄 从配置文件加载: " ++ path
  | .readingUsual => "📄 从默认配置文件加载: " ++ usualPath
  | .missing path => "⚠️ 配置文件不存在: " ++ path
  | .ignored name value => "环境变量 " ++ name ++ " 的值无效，已忽略: " ++ value

/-- The line of the listing that gives the notice. -/
def Notice.line : Notice → Nat
  | .reading _ => 181
  | .readingUsual => 187
  | .missing _ => 184
  | .ignored _ _ => 209

/-- The notice is a warning. -/
def Notice.isWarning : Notice → Bool
  | .reading _ => false
  | .readingUsual => false
  | .missing _ => true
  | .ignored _ _ => true

/-! ## §2. One file. -/

/-- The settings, if a gate can be built from them. -/
def Settings.checked (s : Settings) : Except LoadError Settings :=
  match s.gate.toOptions with
  | .ok _ => .ok s
  | .error e => .error (.invalid e)

/-- The settings of a text, over the standard ones. -/
def Settings.ofText (text : String) : Except LoadError Settings :=
  match File.read text with
  | .error f => .error (.malformed f)
  | .ok f => (Settings.standard.under f.layer).checked

/-- The settings of a file, over the standard ones. -/
def Settings.ofFile (fs : Files) (path : String) : Except LoadError Settings :=
  match fs.readText path with
  | .error f => .error (.unreadable path f)
  | .ok text => Settings.ofText text

/-- What the settings file says about logging, if it can be read at all. -/
def Logging.ofFile (fs : Files) (path : Option String) : Logging :=
  match fs.readText (path.getD usualPath) with
  | .error _ => {}
  | .ok text => Logging.glance text

/-! ## §3. All sources. -/

/-- What settings are put together from. -/
structure Sources where
  files : Files
  environment : Environment
  /-- The settings file that was named. -/
  path : Option String
  /-- What the command line says. -/
  arguments : Layer

namespace Sources

/-- The settings file that is read, if any. -/
def chosenFile (s : Sources) : Option String :=
  let path := s.path.getD usualPath
  if s.files.isPresent path then some path else none

/-- What is worth telling about the choice of the file. -/
def fileNotices (s : Sources) : List Notice :=
  match s.path, s.chosenFile with
  | some path, some _ => [.reading path]
  | some path, none => [.missing path]
  | none, some _ => [.readingUsual]
  | none, none => []

/-- The settings below the environment and the command line. -/
def base (s : Sources) : Except LoadError Settings :=
  match s.chosenFile with
  | some path => Settings.ofFile s.files path
  | none => .ok .standard

/-- The settings that hold. -/
def load (s : Sources) : Except LoadError Settings :=
  match s.base with
  | .error e => .error e
  | .ok base => ((base.under s.environment.layer).under s.arguments).checked

/-- What is worth telling, in order; the environment is not looked at when the file has failed. -/
def notices (s : Sources) : List Notice :=
  s.fileNotices ++
    match s.base with
    | .error _ => []
    | .ok _ => s.environment.ignored.map fun (name, value) => .ignored name value

end Sources

end Admission.Config

/-
  Admission.Log.Logger — where records go.

  The filter of a log comes from a variable of the environment, if that holds one, and from a level
  otherwise.  Records go to the standard output, or to a file that is made with the directories above
  it when the log is opened.
-/
import Admission.Config.Environment
import Admission.Files
import Admission.Log.Filter
import Admission.Log.Line
import Admission.Text.Quoted

namespace Admission.Log

/-- How the program logs. -/
structure Setup where
  level : String
  format : Option String
  /-- The file that records go to. -/
  file : Option String
deriving DecidableEq

/-- A log that is open. -/
structure Logger where
  filter : Filter
  format : Format
  /-- The path of the file that records go to. -/
  path : Option String
deriving DecidableEq

/-- Why a log cannot be opened. -/
inductive OpenError where
  | badPath (path : String)
  | noDirectory (directory : String) (fault : Files.Fault)
  | noFile (path : String) (fault : Files.Fault)
deriving DecidableEq

/-- The variable that may hold a filter. -/
def filterVariable : String := "RUST_LOG"

/-- The filter of the environment, or the one of a level. -/
def filterOf (e : Config.Environment) (level : String) : Filter :=
  ((e.text? filterVariable).bind Filter.read?).getD (.readLeniently level)

/-- What is wrong with a level that serves as a filter. -/
def complaintsOf (e : Config.Environment) (level : String) : List String :=
  match (e.text? filterVariable).bind Filter.read? with
  | some _ => []
  | none => Filter.complaints level

/-- The directory and the path of a log file. -/
def placeOf (path : String) : Except OpenError (String × String) :=
  match Files.fileName? path with
  | none => .error (.badPath path)
  | some name =>
    let directory := if Files.parent path = "" then "." else Files.parent path
    .ok (directory, directory ++ "/" ++ name)

/-- Opens a log, and makes its file. -/
def Setup.opened (s : Setup) (e : Config.Environment) (fs : Files) :
    Except OpenError (Logger × Files) := do
  let logger : Logger :=
    { filter := filterOf e s.level, format := .ofName s.format, path := none }
  match s.file with
  | none => .ok (logger, fs)
  | some file =>
    let (directory, path) ← placeOf file
    match fs.makeDirectories directory with
    | .error fault => .error (.noDirectory directory fault)
    | .ok fs =>
      match fs.appendText path "" with
      | .error fault => .error (.noFile path fault)
      | .ok fs => .ok ({ logger with path := some path }, fs)

namespace Logger

/-- The text of the records that are logged. -/
def render (l : Logger) (time : String) (records : List Record) : String :=
  String.join <|
    (records.filter l.filter.admits).map (·.render l.format l.path.isNone time)

/-- What the records add to the standard output, and the files afterwards. -/
def write (l : Logger) (time : String) (records : List Record) (fs : Files) : String × Files :=
  let text := l.render time records
  match l.path with
  | none => (text, fs)
  | some path => ("", (fs.appendText path text).toOption.getD fs)

end Logger

end Admission.Log

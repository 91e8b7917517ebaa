/-
  Admission.Main — the program as a command.

  It looks at the files, the variables and the words that it was started with, runs the program on
  them, and carries out what comes of it.  There is no network here: no address can be listened at.
-/
import Admission.Program.Run

namespace Admission.Main

open Admission.Program

/-! ## §1. What is looked at. -/

/-- The variables that matter. -/
def variableNames : List String :=
  ["THROTTLE_HOST", "THROTTLE_LOG_LEVEL", Log.filterVariable] ++
  Config.Environment.readVariables.map (·.1)

/-- The paths that arguments name. -/
def pathsOf (a : CommandLine.Arguments) : List String :=
  a.configFile.toList ++ a.logFile.toList ++
  match a.command with
  | some (.generate path) => [path]
  | some (.validate path) => [path]
  | _ => []

/-- The paths that a run may look at or change, as far as the words tell. -/
def namedPaths (words : List String) : List String :=
  [Dotenv.path, Config.usualPath] ++
  match CommandLine.read words with
  | .ok a => pathsOf a
  | .error _ => []

/-- The log file that the settings file names. -/
def loggedPath (words : List String) (fs : Files) : List String :=
  match CommandLine.read words with
  | .ok a => (Config.Logging.ofFile fs a.configFile).file.toList
  | .error _ => []

/-! ## §2. Looking and carrying out. -/

/-- The variables that are set. -/
def readEnvironment : IO Config.Environment := do
  let pairs ← variableNames.filterMapM fun name => do
    return (← IO.getEnv name).map fun v => (name, Text.Raw.text v)
  return ⟨pairs⟩

/-- The files with what is found at a path. -/
def lookAt (fs : Files) (path : String) : IO Files := do
  try
    let bytes ← IO.FS.readBinFile path
    return fs.withFile path (.ofBytes bytes.toList)
  catch
    | .noFileOrDirectory _ _ _ => return fs
    | _ => return (fs.makeDirectories path).toOption.getD fs

/-- Writes what has changed at a path. -/
def carryOut (before after : Files) (path : String) : IO Unit := do
  let new := after.content? path
  if new ≠ before.content? path then
    if let some content := new then
      IO.FS.createDirAll (if Files.parent path = "" then "." else Files.parent path)
      IO.FS.writeBinFile path (ByteArray.mk content.bytes.toArray)

end Admission.Main

open Admission Admission.Main in
def main (words : List String) : IO UInt32 := do
  let named := namedPaths words
  let fs ← named.foldlM lookAt ({} : Files)
  let paths := named ++ loggedPath words fs
  let parents := paths.map fun p => if Files.parent p = "" then "." else Files.parent p
  let fs ← (parents ++ loggedPath words fs).foldlM lookAt fs
  let outcome := Program.Invocation.run
    { words, files := fs, environment := ← readEnvironment
      network := { localHosts := [] }, time := toString (← IO.monoMsNow) }
  paths.forM (carryOut fs outcome.files)
  IO.print outcome.stdout
  IO.eprint outcome.stderr
  return outcome.exitCode.toUInt32

/-
  Admission.Files — the files and directories that are known.

  A path is followed component by component: empty components and single dots do not count, two
  dots lead back to the directory above, and everything but the last component must be a directory.
  It starts at the working directory, or at the root if a slash is in front; how these two lie to
  each other is not known, and what is above the working directory counts as missing.
-/
import Admission.Text.Raw
import Admission.Text.Split

namespace Admission

/-! ## §1. Entries. -/

/-- What a path leads to. -/
inductive Files.Entry where
  | directory
  | file (content : Text.Raw)
deriving DecidableEq

/-- The entries that are known, by the components of their paths; those of a path from the root
start with a slash. -/
structure Files where
  entries : List (List String × Files.Entry) := []
deriving DecidableEq

namespace Files

/-- Why a file operation fails. -/
inductive Fault where
  | notFound
  | alreadyExists
  | notADirectory
  | isADirectory
  | nameTooLong
  /-- The content of a file is no text. -/
  | notText
deriving DecidableEq

/-- The wording of each fault. -/
def Fault.message : Fault → String
  | .notFound => "No such file or directory (os error 2)"
  | .alreadyExists => "File exists (os error 17)"
  | .notADirectory => "Not a directory (os error 20)"
  | .isADirectory => "Is a directory (os error 21)"
  | .nameTooLong => "File name too long (os error 36)"
  | .notText => "stream did not contain valid UTF-8"

/-- The components of the root. -/
def root : List String := ["/"]

/-- The entry at the components of a path; the root and the working directory are always there. -/
def entry? (fs : Files) (at_ : List String) : Option Entry :=
  if at_.isEmpty ∨ at_ = root then some .directory else fs.entries.lookup at_

/-- The files with an entry in place of the one that was there. -/
def put (fs : Files) (at_ : List String) (e : Entry) : Files :=
  ⟨fs.entries.filter (fun p => p.1 ≠ at_) ++ [(at_, e)]⟩

/-! ## §2. Paths. -/

/-- The components of a path that count. -/
def components (path : String) : List String :=
  (Text.split '/' path).filter fun c => c ≠ "" ∧ c ≠ "."

/-- Where a path starts. -/
def start (path : String) : List String := if path.startsWith "/" then root else []

/-- The directory above, if it is known; the root is above itself. -/
def above? (at_ : List String) : Option (List String) :=
  if at_.isEmpty then none else if at_ = root then some root else some at_.dropLast

/-- The path ends so that it can only name a directory. -/
def namesDirectory (path : String) : Bool :=
  match (Text.split '/' path).getLast? with
  | some c => c == "" || c == "." || c == ".."
  | none => false

/-- The longest component there can be, in bytes. -/
def maxName : Nat := 255

/-- The longest path there can be, in bytes. -/
def maxPath : Nat := 4095

/-- The path up to its last component, that component, and whether a slash follows it. -/
def splitLast (path : String) : String × String × Bool :=
  let cs := (Text.split '/' path).reverse
  match cs.dropWhile (· == "") with
  | [] => ("/", "", true)
  | c :: r =>
    let above := "/".intercalate r.reverse
    (if above = "" then (if r.isEmpty then "." else "/") else above, c, cs.head? == some "")

/-- Follows components from a directory: where they lead, and what is there. -/
def follow (fs : Files) : List String → List String → Except Fault (List String × Option Entry)
  | at_, [] => .ok (at_, fs.entry? at_)
  | at_, c :: rest =>
    if c = ".." then
      match above? at_ with
      | some up => follow fs up rest
      | none => if rest.isEmpty then .ok ([], some .directory) else .error .notFound
    else if maxName < c.utf8ByteSize then .error .nameTooLong
    else
      match fs.entry? (at_ ++ [c]) with
      | some .directory => follow fs (at_ ++ [c]) rest
      | some (.file content) =>
        if rest.isEmpty then .ok (at_ ++ [c], some (.file content)) else .error .notADirectory
      | none => if rest.isEmpty then .ok (at_ ++ [c], none) else .error .notFound

/-- Where a path leads, and what is there. -/
def resolve (fs : Files) (path : String) : Except Fault (List String × Option Entry) :=
  if path.isEmpty then .error .notFound
  else if maxPath < path.utf8ByteSize then .error .nameTooLong
  else
    match fs.follow (start path) (components path) with
    | .ok (at_, some (.file content)) =>
      if namesDirectory path then .error .notADirectory else .ok (at_, some (.file content))
    | r => r

/-! ## §3. Operations. -/

/-- Something is there. -/
def isPresent (fs : Files) (path : String) : Bool :=
  match fs.resolve path with
  | .ok (_, some _) => true
  | _ => false

/-- The text of a file. -/
def readText (fs : Files) (path : String) : Except Fault String :=
  match fs.resolve path with
  | .error e => .error e
  | .ok (_, none) => .error .notFound
  | .ok (_, some .directory) => .error .isADirectory
  | .ok (_, some (.file content)) =>
    match content.text? with
    | some s => .ok s
    | none => .error .notText

/-- Writes a text to a file, which is made or replaced.  A name with a slash behind it is no file's,
whatever is there. -/
def writeText (fs : Files) (path text : String) : Except Fault Files :=
  let (above, name, slash) := splitLast path
  if slash ∧ name ≠ "" ∧ name ≠ "." ∧ name ≠ ".." ∧ path.utf8ByteSize ≤ maxPath then
    match fs.resolve above with
    | .error e => .error e
    | .ok (_, none) => .error .notFound
    | .ok (_, some (.file _)) => .error .notADirectory
    | .ok (_, some .directory) => .error .isADirectory
  else
    match fs.resolve path with
    | .error e => .error e
    | .ok (_, some .directory) => .error .isADirectory
    | .ok (at_, some (.file _)) => .ok (fs.put at_ (.file (.text text)))
    | .ok (at_, none) =>
      if namesDirectory path then .error .notFound else .ok (fs.put at_ (.file (.text text)))

/-- Adds a text to the end of a file, which is made if it is missing. -/
def appendText (fs : Files) (path text : String) : Except Fault Files :=
  match fs.resolve path with
  | .ok (at_, some (.file content)) => .ok (fs.put at_ (.file (content.append text)))
  | _ => fs.writeText path text

/-- Makes the directories on the way along components. -/
def makeAlong (fs : Files) : List String → List String → Except Fault Files
  | _, [] => .ok fs
  | at_, c :: rest =>
    if c = ".." then makeAlong fs ((above? at_).getD []) rest
    else if maxName < c.utf8ByteSize then .error .nameTooLong
    else
      match fs.entry? (at_ ++ [c]) with
      | some .directory => makeAlong fs (at_ ++ [c]) rest
      | some (.file _) => if rest.isEmpty then .error .alreadyExists else .error .notADirectory
      | none => makeAlong (fs.put (at_ ++ [c]) .directory) (at_ ++ [c]) rest

/-- Makes a directory and those above it, as far as they are missing. -/
def makeDirectories (fs : Files) (path : String) : Except Fault Files :=
  if maxPath < path.utf8ByteSize then .error .nameTooLong
  else fs.makeAlong (start path) (components path)

/-- The files with one more file, and the directories on the way to it. -/
def withFile (fs : Files) (path : String) (content : Text.Raw) : Files :=
  let cs := components path
  match fs.makeAlong (start path) cs.dropLast with
  | .ok fs => fs.put (start path ++ cs) (.file content)
  | .error _ => fs

/-- The content of a file. -/
def content? (fs : Files) (path : String) : Option Text.Raw :=
  match fs.resolve path with
  | .ok (_, some (.file content)) => some content
  | _ => none

/-! ## §4. The parts of a path. -/

/-- The components of a path from the last one on, without those at its end that do not count. -/
def trimmedFromEnd : List String → List String
  | "" :: r => trimmedFromEnd r
  | "." :: r => if r.isEmpty then ["."] else trimmedFromEnd r
  | r => r

/-- The last component of a path, if it is a name. -/
def fileName? (path : String) : Option String :=
  match trimmedFromEnd (Text.split '/' path).reverse with
  | [] => none
  | c :: _ => if c = "." ∨ c = ".." then none else some c

/-- The path without its last component. -/
def parent (path : String) : String :=
  match trimmedFromEnd (Text.split '/' path).reverse with
  | [] => ""
  | _ :: r =>
    match trimmedFromEnd r with
    | [] => if path.startsWith "/" then "/" else ""
    | r => "/".intercalate r.reverse

end Files

end Admission

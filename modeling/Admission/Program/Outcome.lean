/-
  Admission.Program.Outcome — what a run of the program leaves behind.

  A run ends with an exit code, two texts and files.  A failure is reported with its causes, the
  outermost first; they are numbered if there is more than one below it.
-/
import Admission.Files

namespace Admission.Program

/-- What is left when the program has ended. -/
structure Outcome where
  exitCode : Nat
  stdout : String := ""
  stderr : String := ""
  files : Files

/-- The causes below a failure. -/
def causeLines : List String → String
  | [] => ""
  | [c] => "    " ++ c ++ "\n"
  | cs =>
    String.join <| cs.zipIdx.map fun (c, n) =>
      let number := toString n
      String.ofList (List.replicate (5 - number.length) ' ') ++ number ++ ": " ++ c ++ "\n"

/-- The report of a failure with its causes. -/
def report : List String → String
  | [] => ""
  | [top] => "Error: " ++ top ++ "\n"
  | top :: causes => "Error: " ++ top ++ "\n\nCaused by:\n" ++ causeLines causes

namespace Outcome

/-- The program has failed. -/
def failed (fs : Files) (stdout : String) (causes : List String) : Outcome :=
  { exitCode := 1, stdout, stderr := report causes, files := fs }

/-- The program has done what it was asked for. -/
def done (fs : Files) (stdout : String) : Outcome := { exitCode := 0, stdout, files := fs }

end Outcome

end Admission.Program

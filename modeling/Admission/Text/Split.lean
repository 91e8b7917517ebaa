/-
  Admission.Text.Split — the parts of a text between separators.
-/

namespace Admission.Text

/-- The parts of what is left, `part` being what was read of the first, backwards. -/
def splitFrom (separator : Char) (part : List Char) : List Char → List String
  | [] => [String.ofList part.reverse]
  | c :: r =>
    if c = separator then String.ofList part.reverse :: splitFrom separator [] r
    else splitFrom separator (c :: part) r

/-- The parts of a text between separators; one more than there are separators. -/
def split (separator : Char) (s : String) : List String := splitFrom separator [] s.toList

end Admission.Text

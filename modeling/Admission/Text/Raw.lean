/-
  Admission.Text.Raw — bytes from outside, which may or may not be text.
-/

namespace Admission.Text

/-- The content of a file or of a variable: a text, or bytes that are not the encoding of one. -/
inductive Raw where
  | text (s : String)
  | binary (bytes : List UInt8)
deriving DecidableEq, Inhabited

namespace Raw

/-- Bytes as text, if they encode one. -/
def ofBytes (bytes : List UInt8) : Raw :=
  match String.fromUTF8? (ByteArray.mk bytes.toArray) with
  | some s => .text s
  | none => .binary bytes

def text? : Raw → Option String
  | .text s => some s
  | .binary _ => none

/-- The bytes of the content. -/
def bytes : Raw → List UInt8
  | .text s => s.toUTF8.toList
  | .binary bs => bs

/-- The content with more text at its end. -/
def append (r : Raw) (s : String) : Raw :=
  match r with
  | .text t => .text (t ++ s)
  | .binary bs => .ofBytes (bs ++ s.toUTF8.toList)

end Raw

end Admission.Text

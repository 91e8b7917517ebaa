/-
  Admission.Toml.Text — quoted texts and keys of a settings text.

  A text is BASIC, in double quotes and with escapes, or LITERAL, in single quotes and as it stands;
  three quotes in a row make it one of several lines.  Everything here takes what is left of the
  text and gives what was read with the rest, or nothing.
-/
import Admission.Text.Digit

namespace Admission.Toml

/-! ## §1. Characters. -/

def isSpace (c : Char) : Bool := c == ' ' || c == '\t'

/-- The text from its first character that is neither a space nor a tab. -/
def skipSpaces (cs : List Char) : List Char := cs.dropWhile isSpace

/-- A character that a comment may hold. -/
def isCommentChar (c : Char) : Bool := c == '\t' || (0x20 ≤ c.toNat && c.toNat != 0x7F)

/-- A character that a basic text may hold without an escape. -/
def isBasicChar (c : Char) : Bool := isCommentChar c && c != '"' && c != '\\'

/-- A character that a literal text may hold. -/
def isLiteralChar (c : Char) : Bool := isCommentChar c && c != '\''

/-- A character of a key without quotes. -/
def isBareKeyChar (c : Char) : Bool := c.isAlphanum || c == '_' || c == '-'

/-- The rest after a line break, which is a line feed or a carriage return and a line feed. -/
def lineBreak? : List Char → Option (List Char)
  | '\n' :: r => some r
  | '\r' :: '\n' :: r => some r
  | _ => none

/-- The text without a line break in front. -/
def dropLineBreak (cs : List Char) : List Char := (lineBreak? cs).getD cs

/-! ## §2. Escapes. -/

/-- The number of exactly `n` hexadecimal digits. -/
def hexNumber? : Nat → Nat → List Char → Option (Nat × List Char)
  | 0, acc, cs => some (acc, cs)
  | n + 1, acc, c :: r => do hexNumber? n (acc * 16 + (← Text.hexValue? c)) r
  | _ + 1, _, [] => none

/-- The character of a number, unless it is a half of a surrogate pair or past the last one. -/
def scalar? (n : Nat) : Option Char :=
  if n.isValidChar then some (Char.ofNat n) else none

/-- What an escape stands for, after its backslash. -/
def escape? : List Char → Option (Char × List Char)
  | 'b' :: r => some ('\x08', r)
  | 't' :: r => some ('\t', r)
  | 'n' :: r => some ('\n', r)
  | 'f' :: r => some ('\x0c', r)
  | 'r' :: r => some ('\r', r)
  | '"' :: r => some ('"', r)
  | '\\' :: r => some ('\\', r)
  | 'u' :: r => do
    let (n, r) ← hexNumber? 4 0 r
    some (← scalar? n, r)
  | 'U' :: r => do
    let (n, r) ← hexNumber? 8 0 r
    some (← scalar? n, r)
  | _ => none

/-! ## §3. Texts on one line. -/

/-- The rest of a basic text, to its closing quote; `fuel` is the length of what is left. -/
def basicBody : Nat → List Char → Option (List Char × List Char)
  | 0, _ => none
  | _ + 1, [] => none
  | fuel + 1, c :: r =>
    if c = '"' then some ([], r)
    else if c = '\\' then do
      let (e, r) ← escape? r
      let (s, r) ← basicBody fuel r
      some (e :: s, r)
    else if isBasicChar c then do
      let (s, r) ← basicBody fuel r
      some (c :: s, r)
    else none

/-- The rest of a literal text, to its closing quote. -/
def literalBody : List Char → Option (List Char × List Char)
  | [] => none
  | c :: r =>
    if c = '\'' then some ([], r)
    else if isLiteralChar c then do
      let (s, r) ← literalBody r
      some (c :: s, r)
    else none

/-! ## §4. Texts of several lines. -/

/-- The rest after spaces, tabs and line breaks. -/
def skipSpace : List Char → List Char
  | [] => []
  | ' ' :: r => skipSpace r
  | '\t' :: r => skipSpace r
  | '\n' :: r => skipSpace r
  | '\r' :: '\n' :: r => skipSpace r
  | c :: r => c :: r

/-- The rest after a backslash that joins lines: spaces, a line break, and all space after it. -/
def joinedLines? (cs : List Char) : Option (List Char) := do
  some (skipSpace (← lineBreak? (skipSpaces cs)))

/-- Quotes within a text of several lines: one or two are content, three close it, and up to two
more before those are content. -/
def closingQuotes (quote : Char) (cs : List Char) : Option (List Char × List Char) :=
  let run := (cs.takeWhile (· == quote)).length
  if run < 3 then none
  else
    let kept := min (run - 3) 2
    some (List.replicate kept quote, cs.drop (kept + 3))

/-- The rest of a text of several lines, to its closing quotes. -/
def linesBody (quote : Char) : Nat → List Char → Option (List Char × List Char)
  | 0, _ => none
  | fuel + 1, cs =>
    match closingQuotes quote cs with
    | some done => some done
    | none =>
      match cs with
      | [] => none
      | c :: r =>
        let more (c : Char) (r : List Char) : Option (List Char × List Char) := do
          let (s, r) ← linesBody quote fuel r
          some (c :: s, r)
        if c = '\\' ∧ quote = '"' then
          match joinedLines? r with
          | some r => linesBody quote fuel r
          | none => do
            let (e, r) ← escape? r
            more e r
        else match lineBreak? (c :: r) with
          | some r => more '\n' r
          | none => if isCommentChar c then more c r else none

/-! ## §5. Texts and keys. -/

/-- A text in quotes of any kind. -/
def quotedText : List Char → Option (String × List Char)
  | '"' :: '"' :: '"' :: r => do
    let (s, r) ← linesBody '"' (r.length + 1) (dropLineBreak r)
    some (String.ofList s, r)
  | '"' :: r => do
    let (s, r) ← basicBody (r.length + 1) r
    some (String.ofList s, r)
  | '\'' :: '\'' :: '\'' :: r => do
    let (s, r) ← linesBody '\'' (r.length + 1) (dropLineBreak r)
    some (String.ofList s, r)
  | '\'' :: r => do
    let (s, r) ← literalBody r
    some (String.ofList s, r)
  | _ => none

/-- One part of a key: bare, or a text on one line. -/
def keyPart : List Char → Option (String × List Char)
  | '"' :: r => do
    let (s, r) ← basicBody (r.length + 1) r
    some (String.ofList s, r)
  | '\'' :: r => do
    let (s, r) ← literalBody r
    some (String.ofList s, r)
  | cs =>
    match cs.takeWhile isBareKeyChar with
    | [] => none
    | s => some (String.ofList s, cs.dropWhile isBareKeyChar)

/-- The parts of a key, at most `fuel` of them, with spaces around each. -/
def keyParts : Nat → List Char → Option (List String × List Char)
  | 0, _ => none
  | fuel + 1, cs => do
    let (k, r) ← keyPart (skipSpaces cs)
    match skipSpaces r with
    | '.' :: r =>
      let (ks, r) ← keyParts fuel r
      some (k :: ks, r)
    | r => some ([k], r)

/-- Nothing may be nested as deep as this. -/
def depthLimit : Nat := 80

/-- A key. -/
def key (cs : List Char) : Option (List String × List Char) := keyParts (depthLimit - 1) cs

end Admission.Toml

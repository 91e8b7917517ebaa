/-
  Admission.Log.Filter — which records are logged.

  A filter is a list of directives with commas between them.  A directive gives a verbosity, for all
  records or for those whose target starts with a text, and may ask for a field that the record must
  hold.  Of the directives that fit a record the most specific one decides.  A directive about spans
  never fits: no record lies in a span.
-/
import Admission.Log.Pattern
import Admission.Log.Record
import Admission.Text.Blank
import Admission.Text.Split

namespace Admission.Log

/-! ## §1. Directives. -/

/-- One directive. -/
structure Directive where
  verbosity : Nat
  target : Option String := none
  /-- The fields that a record must hold. -/
  fields : List String := []
  /-- The directive is about a span, or about the value of a field. -/
  isDynamic : Bool := false
deriving DecidableEq

/-- Why a directive cannot be read. -/
inductive DirectiveFault where
  | malformed
  | level
  /-- The value of a field is no pattern. -/
  | field
deriving DecidableEq

/-- The wording of each fault. -/
def DirectiveFault.message : DirectiveFault → String
  | .malformed => "invalid filter directive"
  | .level =>
    "error parsing level filter: expected one of \"off\", \"error\", \"warn\", \"info\", \"debug\", \"trace\", or a number 0-5"
  | .field => "invalid field filter: error building NFA"

/-- The most that a log can hold. -/
def fullVerbosity : Nat := 5

/-- The digits of a number, after an optional plus. -/
def smallNumber? (s : String) : Option Nat :=
  let digits := match s.toList with
    | '+' :: r => r
    | r => r
  if digits.isEmpty || !digits.all Char.isDigit then none
  else some (Text.ofDigits 10 digits)

/-- The verbosity that a name or a number stands for. -/
def verbosity? (s : String) : Option Nat :=
  match smallNumber? s with
  | some n => if n ≤ fullVerbosity then some n else none
  | none =>
    let s := s.toLower
    if s = "error" then some 1
    else if s = "warn" then some 2
    else if s = "info" then some 3
    else if s = "debug" then some 4
    else if s = "trace" then some 5
    else if s = "off" then some 0
    else none

/-- The first character of a directive that is not about a span. -/
def startsDirective (c : Char) : Bool := c == '-' || c == ':' || c == '_' || Text.isWordChar c

/-! ## §2. Reading directives.

The marks of a directive are looked for in its text without blanks around it.  Its parts however are
cut from the text as it was given, at the distances from the start that the marks have in the other,
so blanks in front displace every part. -/

/-- The bytes of a text from one distance to another. -/
def cut (text : String) (start stop : Nat) : String :=
  (String.fromUTF8? (text.toUTF8.extract start stop)).getD ""

/-- The number of bytes of characters. -/
def byteCount (cs : List Char) : Nat := (String.ofList cs).utf8ByteSize

/-- The verbosity from a distance on; everything, if nothing stands there. -/
def levelPart (text : String) (d : Directive) (start : Nat) : Except DirectiveFault Directive :=
  let level := cut text start text.utf8ByteSize
  if level = "" then .ok d
  else match verbosity? level with
    | some v => .ok { d with verbosity := v }
    | none => .error .level

/-- What follows the target or the span of a directive, with its distance. -/
def afterSpan (text : String) (d : Directive) (start : Nat) :
    List Char → Except DirectiveFault Directive
  | [] => .ok d
  | '=' :: _ => levelPart text d (start + 1)
  | _ => .error .malformed

/-- A directive with one more field, which may have a value. -/
def addField (d : Directive) (field : String) : Except DirectiveFault Directive :=
  match Text.split '=' field with
  | _ :: value :: _ =>
    if Pattern.isAllowed value.toList then .ok { d with isDynamic := true } else .error .field
  | _ => .ok { d with fields := d.fields ++ [field] }

/-- The field of a directive, after its opening brace, and what follows it. -/
def fieldPart (text : String) (d : Directive) (start : Nat) (cs : List Char) :
    Except DirectiveFault Directive :=
  let inner := cs.takeWhile (· ≠ '\x7d')
  let stop := start + byteCount inner
  match cs.dropWhile (· ≠ '\x7d') with
  | [] => .error .malformed
  | _ :: r =>
    if inner.isEmpty then .error .malformed
    else do
      let d ← addField d (cut text start stop)
      match r with
      | ']' :: r => afterSpan text d (stop + 2) r
      | _ => .error .malformed

/-- The span of a directive, after its opening bracket, and what follows it. -/
def spanPart (text : String) (d : Directive) (start : Nat) (cs : List Char) :
    Except DirectiveFault Directive :=
  let name := cs.takeWhile fun c => c ≠ ']' ∧ c ≠ '\x7b'
  let stop := start + byteCount name
  match cs.dropWhile fun c => c ≠ ']' ∧ c ≠ '\x7b' with
  | ']' :: r => afterSpan text { d with isDynamic := true } (stop + 1) r
  | _ :: r => fieldPart text { d with isDynamic := !name.isEmpty } (stop + 1) r
  | [] => .error .malformed

/-- Reads a directive. -/
def Directive.read (text : String) : Except DirectiveFault Directive :=
  let cs := Text.trim text.toList
  match cs with
  | [] => .error .malformed
  | '[' :: r => spanPart text { verbosity := fullVerbosity } 1 r
  | c :: _ =>
    if !startsDirective c then .error .malformed
    else
      let stop := byteCount (cs.takeWhile fun c => c ≠ '=' ∧ c ≠ '[')
      let about : Directive := { verbosity := fullVerbosity, target := some (cut text 0 stop) }
      match cs.dropWhile fun c => c ≠ '=' ∧ c ≠ '[' with
      | '=' :: _ => levelPart text about (stop + 1)
      | _ :: r => spanPart text about (stop + 1) r
      | [] =>
        match verbosity? text with
        | some v => .ok { verbosity := v }
        | none => .ok { verbosity := fullVerbosity, target := some text }

/-- The directive fits a record. -/
def Directive.fits (d : Directive) (r : Record) : Bool :=
  !d.isDynamic && d.fields.all r.fieldNames.contains &&
  match d.target with
  | none => true
  | some t => r.target.startsWith t

/-- How specific a directive is by its target: the longer the more. -/
def Directive.reach (d : Directive) : Nat :=
  match d.target with
  | none => 0
  | some t => t.utf8ByteSize + 1

/-- The directive is at least as specific as another that fits the same record: by the length of its
target, then by the number of its fields, then by their order. -/
def Directive.prevails (d e : Directive) : Bool :=
  if d.reach ≠ e.reach then e.reach < d.reach
  else if d.fields.length ≠ e.fields.length then e.fields.length < d.fields.length
  else !(d.fields < e.fields)

/-! ## §3. Filters. -/

/-- Which records are logged. -/
structure Filter where
  directives : List Directive
deriving DecidableEq

namespace Filter

/-- The parts of a text that should be directives. -/
def parts (text : String) : List String := (Text.split ',' text).filter (· ≠ "")

/-- Reads a filter all of whose directives must be right; without directives it logs nothing. -/
def read? (text : String) : Option Filter :=
  ((parts text).mapM fun s => (Directive.read s).toOption).map Filter.mk

/-- Reads a filter and passes over directives that are wrong; if none is left, errors are logged. -/
def readLeniently (text : String) : Filter :=
  let ds := (parts text).filterMap fun s => (Directive.read s).toOption
  ⟨if ds.isEmpty then [{ verbosity := Level.error.verbosity }] else ds⟩

/-- What a lenient reading says about the directives that it passes over. -/
def complaints (text : String) : List String :=
  (parts text).filterMap fun s =>
    match Directive.read s with
    | .ok _ => none
    | .error e => some ("ignoring `" ++ s ++ "`: " ++ e.message)

/-- The directive that decides about a record: the most specific one, and of equals the last. -/
def deciding? (f : Filter) (r : Record) : Option Directive :=
  (f.directives.filter (·.fits r)).foldl
    (fun best d =>
      match best with
      | none => some d
      | some b => if d.prevails b then some d else some b)
    none

/-- The record is logged. -/
def admits (f : Filter) (r : Record) : Bool :=
  match f.deciding? r with
  | some d => r.level.verbosity ≤ d.verbosity
  | none => false

end Filter

end Admission.Log

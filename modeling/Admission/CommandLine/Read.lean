/-
  Admission.CommandLine.Read — reading a command line.

  Words are read from left to right.  A parameter whose value is still to come takes the next word,
  unless that is itself a parameter; its value is looked at when the next parameter takes effect or
  the words end, so what is wrong with a later word may be found first.  After `--` no word is a
  parameter.  The words after the name of a command belong to that command.
-/
import Admission.CommandLine.Help
import Admission.Text.Terminal

namespace Admission.CommandLine

/-! ## §1. Outcomes. -/

/-- What is wrong with a command line. -/
inductive UsageError where
  | unknownArgument (word : String)
  | missingValue (parameter : String)
  | badValue (value parameter reason : String)
  | extraValue (value parameter : String)
  | repeated (parameter : String)
  | unknownCommand (word : String)
deriving DecidableEq

/-- The wording of each cause; what it tells of the command line commands a terminal nothing. -/
def UsageError.message : UsageError → String
  | .unknownArgument w => "error: unexpected argument '" ++ Text.withoutCommands w ++ "' found"
  | .missingValue p => "error: a value is required for '" ++ p ++ "' but none was supplied"
  | .badValue v p reason =>
    "error: invalid value '" ++ Text.withoutCommands v ++ "' for '" ++ p ++ "': " ++ reason
  | .extraValue v p =>
    "error: unexpected value '" ++ Text.withoutCommands v ++ "' for '" ++ p ++
    "' found; no more were expected"
  | .repeated p => "error: the argument '" ++ p ++ "' cannot be used multiple times"
  | .unknownCommand w => "error: unrecognized subcommand '" ++ Text.withoutCommands w ++ "'"

/-- Why nothing else is done: the command line is wrong, or asks for a text. -/
inductive Halt where
  | usage (e : UsageError)
  | help (text : String)
  | version (text : String)
deriving DecidableEq

/-! ## §2. The state of reading. -/

/-- What a command line, or the words of a command, may hold. -/
structure Grammar where
  parameters : List Parameter
  commands : List String
  takesOperand : Bool
  help : String

/-- How far the words were read. -/
structure Reading where
  arguments : Arguments := {}
  /-- The parameters that took effect. -/
  given : List String := []
  /-- The last parameter with a value, while the value was not looked at. -/
  pending : Option (Parameter × Option String) := none
  operand : Option String := none

namespace Reading

/-- The parameter whose value is still to come. -/
def awaited (r : Reading) : Option Parameter :=
  match r.pending with
  | some (p, none) => some p
  | _ => none

/-- The pending parameter takes effect. -/
def settle (r : Reading) : Except Halt Reading :=
  match r.pending with
  | none => .ok r
  | some (p, none) => .error (.usage (.missingValue p.display))
  | some (p, some v) =>
    if r.given.contains p.display then .error (.usage (.repeated p.display))
    else
      match p.effect with
      | .value _ _ set =>
        match set v r.arguments with
        | .ok a => .ok { r with arguments := a, given := p.display :: r.given, pending := none }
        | .error reason => .error (.usage (.badValue v p.display reason))
      | _ => .ok { r with pending := none }

/-- One more request for more, as far as it can be counted. -/
def countUp (n : UInt8) : UInt8 := if n = 255 then n else n + 1

/-- A parameter without a value takes effect. -/
def raise (g : Grammar) (p : Parameter) (r : Reading) : Except Halt Reading := do
  let r ← r.settle
  match p.effect with
  | .switch turnOn =>
    if r.given.contains p.display then .error (.usage (.repeated p.display))
    else .ok { r with arguments := turnOn r.arguments, given := p.display :: r.given }
  | .count =>
    .ok { r with arguments := { r.arguments with verbosity := countUp r.arguments.verbosity } }
  | .help => .error (.help g.help)
  | .version => .error (.version versionText)
  | .value _ _ _ => .ok { r with pending := some (p, none) }

/-! ## §3. Words. -/

/-- A word that names a parameter by its long name, and may give its value after a mark. -/
def long (g : Grammar) (body : List Char) (r : Reading) : Except Halt Reading :=
  let name := String.ofList (body.takeWhile (· ≠ '='))
  let attached : Option String :=
    match body.dropWhile (· ≠ '=') with
    | _ :: v => some (String.ofList v)
    | [] => none
  match g.parameters.find? (fun p => p.long == some name) with
  | none => .error (.usage (.unknownArgument ("--" ++ name)))
  | some p =>
    match attached with
    | none => r.raise g p
    | some v =>
      if p.takesValue then do
        let r ← r.settle
        settle { r with pending := some (p, some v) }
      else .error (.usage (.extraValue v p.display))

/-- A word that names parameters by their short names. -/
def cluster (g : Grammar) : List Char → Reading → Except Halt Reading
  | [], r => .ok r
  | c :: cs, r =>
    match g.parameters.find? (fun p => p.short == some c) with
    | none => .error (.usage (.unknownArgument (String.ofList ['-', c])))
    | some p => do cluster g cs (← r.raise g p)

/-- A word that is no parameter. -/
def takeOperand (g : Grammar) (trailing : Bool) (word : String) (r : Reading) :
    Except Halt Reading :=
  if g.takesOperand && r.operand.isNone then do
    let r ← r.settle
    .ok { r with operand := some word }
  else if g.commands.isEmpty || (trailing && g.commands.contains word) then
    .error (.usage (.unknownArgument word))
  else .error (.usage (.unknownCommand word))

/-- Words after which no word is a parameter. -/
def trailing (g : Grammar) : Reading → List String → Except Halt Reading
  | r, [] => .ok r
  | r, w :: rest => do trailing g (← r.takeOperand g true w) rest

end Reading

/-- Digits, with a point after some of them and an exponent behind, or nothing at all: what may
follow the minus of a negative number. -/
def looksNumeric : Bool → Bool → Bool → List Char → Bool
  | _, _, _, [] => true
  | first, point, exponent, c :: r =>
    if c.isDigit then looksNumeric false point exponent r
    else if c == '.' && !point && !exponent && !first then looksNumeric false true exponent r
    else if (c == 'e' || c == 'E') && !exponent && !first then
      !r.isEmpty && looksNumeric false point true r
    else false

/-- What a word looks like. -/
inductive Word where
  | separator
  | long (body : List Char)
  | short (body : List Char)
  | plain

/-- A single minus names nothing. -/
def Word.ofString (w : String) : Word :=
  match w.toList with
  | ['-'] => .plain
  | ['-', '-'] => .separator
  | '-' :: '-' :: body => .long body
  | '-' :: body => .short body
  | _ => .plain

/-- Reads words up to the name of a command; gives the command with its words if there is one. -/
def scan (g : Grammar) : Reading → List String →
    Except Halt (Reading × Option (String × List String))
  | r, [] => .ok (r, none)
  | r, w :: rest =>
    if r.awaited.isNone && g.commands.contains w then .ok (r, some (w, rest))
    else
      match Word.ofString w, r.awaited with
      | .separator, _ => do .ok (← r.trailing g rest, none)
      | .long body, _ => do scan g (← r.long g body) rest
      | .short body, some p =>
        if p.allowsNegative && looksNumeric true false false body then
          scan g { r with pending := some (p, some w) } rest
        else do scan g (← r.cluster g body) rest
      | .short body, none => do scan g (← r.cluster g body) rest
      | .plain, some p => scan g { r with pending := some (p, some w) } rest
      | .plain, none => do scan g (← r.takeOperand g false w) rest

/-! ## §4. Commands and the whole. -/

/-- What the whole command line may hold. -/
def mainGrammar : Grammar :=
  { parameters := Parameter.all, commands := allCommands.map (·.name), takesOperand := false
    help := mainHelp }

/-- What the words of a command may hold. -/
def commandGrammar (c : CommandInfo) : Grammar :=
  { parameters := [.helpRequest], commands := [], takesOperand := c.argument.isSome
    help := commandHelp c }

/-- The help text that words after `help` ask for. -/
def helpFor : List String → Halt
  | [] => .help mainHelp
  | name :: rest =>
    match allCommands.find? (fun c => c.name == name), rest with
    | none, _ => .usage (.unknownCommand name)
    | some _, extra :: _ => .usage (.unknownCommand extra)
    | some c, [] => .help (if c.name = helpInfo.name then helpHelp else commandHelp c)

/-- The operand of a command, if it has one. -/
def readOperand (c : CommandInfo) (words : List String) : Except Halt (Option String) := do
  let (r, _) ← scan (commandGrammar c) {} words
  let r ← r.settle
  .ok r.operand

/-- A command, from its name and its words. -/
def readCommand (name : String) (words : List String) : Except Halt Command := do
  if name = generateInfo.name then
    let path ← readOperand generateInfo words
    .ok (.generate (path.getD Config.usualPath))
  else if name = validateInfo.name then
    let path ← readOperand validateInfo words
    .ok (.validate (path.getD Config.usualPath))
  else if name = showInfo.name then
    let _ ← readOperand showInfo words
    .ok .showSettings
  else .error (helpFor words)

/-- Reads a command line, without the name of the program. -/
def read (words : List String) : Except Halt Arguments := do
  let (r, next) ← scan mainGrammar {} words
  match next with
  | none =>
    let r ← r.settle
    .ok r.arguments
  | some (name, words) =>
    let command ← readCommand name words
    let r ← r.settle
    .ok { r.arguments with command := some command }

end Admission.CommandLine

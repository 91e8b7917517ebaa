/-
  Admission.Text.Terminal — what a terminal would take for a command.

  A command begins with an escape character; what follows says how long it is.  Text for a terminal
  that comes from outside is either cleared of commands, or shows them by their numbers.
-/

namespace Admission.Text

/-! ## §1. Clearing commands. -/

/-- Where a terminal is with regard to commands. -/
inductive Mode where
  /-- Outside of commands. -/
  | ground
  /-- An escape character was read. -/
  | escape
  /-- A short command goes on until its final character. -/
  | short
  /-- A command with parameters goes on until its final letter. -/
  | parameters
  /-- A title goes on until a bell. -/
  | title
  /-- A message goes on until the next command. -/
  | message
deriving DecidableEq

/-- White space among the control characters. -/
def isLayout (c : Char) : Bool := c == '\t' || c == '\n' || c == '\x0c' || c == '\r'

/-- A control character of ASCII. -/
def isControl (c : Char) : Bool := c.toNat < 32 || c == '\x7f'

/-- The mode after a character that is no control and belongs to a command. -/
def Mode.follow (m : Mode) (c : Char) : Mode :=
  match m with
  | .escape =>
    if c.toNat < 0x30 then .short
    else if c = '[' then .parameters
    else if c = ']' then .title
    else if c = 'P' ∨ c = 'X' ∨ c = '^' ∨ c = '_' then .message
    else .ground
  | .short => if c.toNat < 0x30 then .short else .ground
  | .parameters => if c.toNat < 0x40 then .parameters else .ground
  | m => m

/-- The mode after a character, and whether the character is shown.  White space breaks off a command
that is not a title or a message; what is beyond ASCII is passed over within a command. -/
def Mode.step (m : Mode) (c : Char) : Mode × Bool :=
  if c = '\x1b' then (.escape, false)
  else if c = '\x18' ∨ c = '\x1a' then (.ground, false)
  else
    match m with
    | .ground => (.ground, isLayout c || !isControl c)
    | .title => (if c = '\x07' then .ground else .title, false)
    | .message => (.message, false)
    | m =>
      if isLayout c then (.ground, true)
      else if isControl c ∨ 128 ≤ c.toNat then (m, false)
      else (m.follow c, false)

/-- What is shown of characters that a terminal reads in a mode. -/
def shown : Mode → List Char → List Char
  | _, [] => []
  | m, c :: r =>
    match m.step c with
    | (m, true) => c :: shown m r
    | (m, false) => shown m r

/-- The text without commands and other controls. -/
def withoutCommands (s : String) : String := String.ofList (shown .ground s.toList)

/-! ## §2. Showing commands. -/

/-- Two lower-case hexadecimal digits of a small number. -/
def twoHexDigits (n : Nat) : List Char :=
  [Nat.digitChar (n / 16 % 16), Nat.digitChar (n % 16)]

/-- A character; what a terminal could take for a command is written by its number. -/
def disarmedChar (c : Char) : List Char :=
  if c = '\x1b' ∨ c = '\x07' ∨ c = '\x08' ∨ c = '\x0c' ∨ c = '\x7f' then
    ['\\', 'x'] ++ twoHexDigits c.toNat
  else if 0x80 ≤ c.toNat ∧ c.toNat ≤ 0x9f then
    ['\\', 'u', '\x7b'] ++ twoHexDigits c.toNat ++ ['\x7d']
  else [c]

/-- A text that commands a terminal nothing. -/
def disarmed (s : String) : String := String.ofList (s.toList.flatMap disarmedChar)

end Admission.Text

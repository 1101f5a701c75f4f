/-!
# Text without terminal controls

A text is shown without the control sequences that a terminal would act upon. A sequence
begins with an escape character. White space inside most of them is kept; other characters
inside are left out, and so are control characters anywhere. Device and private strings take
everything up to their end.

White space inside a sequence ends it in a text that is kept as a whole (`plain`). In a text
that is written out it only suspends it (`written`): what follows is kept up to the next
control character, behind which the sequence goes on.
-/

namespace AssessmentRequest.Terminal

/-- How far into a control sequence a text has come. -/
inductive Mode where
  /-- Outside of any sequence. -/
  | ground
  /-- Behind an escape character. -/
  | escape
  /-- In an escape sequence with intermediate characters. -/
  | intermediate
  /-- In a control sequence with parameters. -/
  | control
  /-- In a command string, which a bell ends. -/
  | command
  /-- At the beginning of a device string. -/
  | device
  /-- In the parameters of a device string. -/
  | deviceParameters
  /-- In the intermediate characters of a device string. -/
  | deviceIntermediate
  /-- In the content of a device or private string, which a string terminator ends. -/
  | string
  deriving Repr, DecidableEq

/-- White space that is kept wherever controls are acted upon. -/
def isKeptSpace (char : Char) : Bool :=
  char = '\t' || char = '\n' || char = '\x0c' || char = '\r'

/-- The byte that ends a device or private string. -/
def stringTerminator : UInt8 := 0x9C

/-- The mode behind the character after an escape character. -/
def afterEscape (char : Char) : Mode :=
  if char = '[' then .control
  else if char = ']' then .command
  else if char = 'P' then .device
  else if char = 'X' ∨ char = '^' ∨ char = '_' then .string
  else if char.toNat < 0x30 then .intermediate
  else .ground

/-- The mode behind a visible character of a device string before its content. -/
def inDevice (mode : Mode) (char : Char) : Mode :=
  if 0x40 ≤ char.toNat then .string
  else if char.toNat < 0x30 then .deviceIntermediate
  else
    match mode with
    | .device => .deviceParameters
    | .deviceParameters =>
      if char.isDigit ∨ char = ':' ∨ char = ';' then .deviceParameters else .string
    | _ => .string

/-- Takes a character outside ASCII inside a sequence. It is left out, and its bytes matter
only where the string terminator may be among them. -/
def stepBeyondAscii (mode : Mode) (char : Char) : Mode :=
  match mode with
  | .string =>
    if (String.utf8EncodeChar char).contains stringTerminator then .ground else .string
  | _ => mode

/-- The mode that a character begins wherever it stands: the escape character opens a
sequence, the cancelling and the substituting character close one. -/
def interruption (char : Char) : Option Mode :=
  if char = '\x1b' then some .escape
  else if char = '\x18' ∨ char = '\x1a' then some .ground
  else none

/-- Takes one character of ASCII that interrupts nothing: whether it is kept, and the mode
behind it. -/
def stepAscii (mode : Mode) (char : Char) : Bool × Mode :=
  match mode with
  | .command => (false, if char = '\x07' then .ground else .command)
  | .string => (false, .string)
  | _ =>
    let isControl : Bool := char.toNat < 0x20 || char = '\x7f'
    match mode with
    | .device | .deviceParameters | .deviceIntermediate =>
      (false, if isControl then mode else inDevice mode char)
    | _ =>
      if isControl then
        if isKeptSpace char then (true, .ground) else (false, mode)
      else
        match mode with
        | .escape => (false, afterEscape char)
        | .intermediate => (false, if char.toNat < 0x30 then .intermediate else .ground)
        | .control => (false, if char.toNat < 0x40 then .control else .ground)
        | _ => (true, .ground)

/-- Takes one character: whether it is kept, and the mode behind it. -/
def step (mode : Mode) (char : Char) : Bool × Mode :=
  if 0x80 ≤ char.toNat then
    if mode = .ground then (true, .ground) else (false, stepBeyondAscii mode char)
  else
    match interruption char with
    | some next => (false, next)
    | none => stepAscii mode char

/-- The characters that are kept where white space ends a sequence. -/
def kept (mode : Mode) : List Char → List Char
  | [] => []
  | char :: rest =>
    let taken := step mode char
    if taken.1 then char :: kept taken.2 rest else kept taken.2 rest

/-- The characters that are kept where white space suspends a sequence. The mode is that of
the sequence also while it is suspended; a character beyond ASCII that is kept ends it. -/
def keptSuspending (suspended : Bool) (mode : Mode) : List Char → List Char
  | [] => []
  | char :: rest =>
    let taken := step (if suspended then .ground else mode) char
    if taken.1 then
      char :: keptSuspending true (if 0x80 ≤ char.toNat then .ground else mode) rest
    else
      keptSuspending false (if suspended then (interruption char).getD mode else taken.2) rest

/-- A text without control sequences. -/
def plain (text : String) : String := String.ofList (kept .ground text.toList)

/-- A text without control sequences, as it is written out. -/
def written (text : String) : String :=
  String.ofList (keptSuspending false .ground text.toList)

end AssessmentRequest.Terminal

import AssessmentRequest.CommandLine.Option
import AssessmentRequest.Text.Numeral
import AssessmentRequest.Text.Terminal

/-!
# Usage errors

Why a command line gives no arguments: it is wrong, or it asks for the help or version text.
The message of a usage error is one line; so is the complaint that the program writes out
about it, which differs where a text that was given has terminal controls.
-/

namespace AssessmentRequest.CommandLine

/-- Why a numeric value is refused. -/
inductive NumberFault where
  /-- It is no numeral, or one of too many digits. -/
  | numeral (fault : Numeral.Fault)
  /-- It is no port number. -/
  | notPort (value : Int)
  deriving Repr, DecidableEq

/-- The wording of a fault of a numeric value. -/
def NumberFault.message : NumberFault → String
  | numeral fault => fault.message
  | notPort value => toString value ++ " is not in 0..=65535"

/-- Why a command line gives no arguments. -/
inductive Stop where
  /-- A word is no option, or a second positional argument. -/
  | unknownArgument (shown : String)
  /-- An option lacks its value. -/
  | missingValue (option : Named)
  /-- A numeric value is refused. -/
  | badNumber (shown : String) (value : String) (fault : NumberFault)
  /-- An option is given twice. -/
  | repeated (switch : Switch)
  /-- A flag is given a value. -/
  | surplusValue (value : String) (flag : Flag)
  /-- A value is not UTF-8. -/
  | invalidUtf8
  /-- The help text is asked for. -/
  | help
  /-- The version text is asked for. -/
  | version
  deriving Repr, DecidableEq

namespace Stop

/-- The words of a usage error, `clean` taking the terminal controls out of what was given;
for the two texts, the texts themselves. -/
def words (clean : String → String) : Stop → String
  | unknownArgument shown => "unexpected argument '" ++ clean shown ++ "' found"
  | missingValue option => "a value is required for '" ++ option.shown ++ "' but none was supplied"
  | badNumber shown value fault =>
    "invalid value '" ++ clean value ++ "' for '" ++ shown ++ "': " ++ fault.message
  | repeated switch => "the argument '" ++ switch.shown ++ "' cannot be used multiple times"
  | surplusValue value flag =>
    "unexpected value '" ++ clean value ++ "' for '" ++ flag.shown
      ++ "' found; no more were expected"
  | invalidUtf8 => "invalid UTF-8 was detected in one or more arguments"
  | help => helpText
  | version => versionText

/-- A text was asked for; nothing is wrong. -/
def isText : Stop → Bool
  | help | version => true
  | _ => false

/-- A text up to its first line feed. -/
def firstLine (text : String) : String := String.ofList (text.toList.takeWhile (· ≠ '\n'))

/-- What is shown: the whole of a text, the first line of a usage error. -/
def message (stop : Stop) : String :=
  if stop.isText then stop.words Terminal.plain else firstLine (stop.words Terminal.plain)

/-- What the program writes about a usage error: its first line. -/
def complaint (stop : Stop) : String := firstLine (stop.words Terminal.written)

end Stop

end AssessmentRequest.CommandLine

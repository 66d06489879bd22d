import MagicBaud.CommandLine.Help
import MagicBaud.Text.Plain
import MagicBaud.Text.Style

namespace MagicBaud.CommandLine

/-- Why a text is no value of a field. -/
inductive ValueFault where
  | rate (e : UnknownRate)
  | number (fault : Text.NumberFault)
  deriving DecidableEq

def ValueFault.message : ValueFault → String
  | .rate e => e.message
  | .number fault => fault.message

inductive Refusal where
  | unknown (argument : String)
  | repeated (argument : Argument)
  | missing (field : Field)
  | unneeded (flag : Flag) (value : String)
  | unfit (field : Field) (value : String) (cause : ValueFault)
  deriving DecidableEq

/-- What the user is told to try behind every refusal. -/
def hint : String :=
  "\n\nFor more information, try '" ++ Text.Style.bold.paint true "--help" ++ "'.\n"

/-- The text for the user, in which what the user wrote stands without terminal controls. A control
string that a cause leaves open takes in what follows, up to where the hint is set off by a style. -/
def Refusal.told (i : Text.Interruption) : Refusal → String
  | .unknown argument =>
    "error: unexpected argument '" ++ Text.plain i argument ++ "' found" ++ Text.plain i hint
  | .repeated argument =>
    "error: the argument '" ++ argument.label ++ "' cannot be used multiple times"
      ++ Text.plain i hint
  | .missing field =>
    "error: a value is required for '" ++ field.label ++ "' but none was supplied"
      ++ Text.plain i hint
  | .unneeded flag value =>
    "error: unexpected value '" ++ Text.plain i value ++ "' for '" ++ flag.label
      ++ "' found; no more were expected" ++ Text.plain i hint
  | .unfit field value cause =>
    "error: invalid value '" ++ Text.plain i value ++ "' for '" ++ field.label ++ "': "
      ++ Text.plain i (cause.message ++ hint)

/-- The reason as a text of its own. -/
def Refusal.message : Refusal → String := Refusal.told .abandons

/-- The reason as it is written beside the output. -/
def Refusal.shown : Refusal → String := Refusal.told .suspends

inductive Reply where
  | help (detailed : Bool)
  | version
  | refused (r : Refusal)
  deriving DecidableEq

def Reply.text : Reply → String
  | .help false => Help.summary
  | .help true => Help.detailed
  | .version => Help.version
  | .refused r => r.message

end MagicBaud.CommandLine

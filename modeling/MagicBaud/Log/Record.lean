import MagicBaud.Text.Plain

namespace MagicBaud.Log

/-- Levels from the gravest to the most detailed. -/
inductive Level where
  | error
  | warn
  | info
  | debug
  | trace
  deriving DecidableEq, Repr

namespace Level

def name : Level → String
  | .error => "ERROR"
  | .warn => "WARN"
  | .info => "INFO"
  | .debug => "DEBUG"
  | .trace => "TRACE"

/-- A larger detail is a less grave level. -/
def detail : Level → Nat
  | .error => 1
  | .warn => 2
  | .info => 3
  | .debug => 4
  | .trace => 5

end Level

structure Record where
  level : Level
  target : String
  text : String
  deriving DecidableEq

/-- One line for the record, the level padded to five characters. The later lines of a text with
line feeds are indented by four blanks. -/
def Record.line (r : Record) : String :=
  let level := r.level.name ++ String.ofList (List.replicate (5 - r.level.name.length) ' ')
  let indented := r.text.toList.flatMap (fun c => if c = '\n' then "\n    ".toList else [c])
  "[" ++ level ++ " " ++ r.target ++ "] " ++ String.ofList indented

/-- The record as it is written, without terminal controls. -/
def Record.shown (r : Record) : String := Text.plain .suspends (r.line ++ "\n")

end MagicBaud.Log

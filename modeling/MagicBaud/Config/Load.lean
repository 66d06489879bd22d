import MagicBaud.Config.Misfit
import MagicBaud.Files
import MagicBaud.Toml.Document

namespace MagicBaud.Config

/-- Why the text of a file yields no layer. -/
inductive Fault where
  | notToml
  | misfit (m : Misfit)

def Fault.message : Fault → String
  | .notToml => "the text is not a TOML document"
  | .misfit m => m.message

inductive LoadError where
  | unreadable (path : String) (cause : ReadError)
  | unusable (path : String) (cause : Fault)

namespace LoadError

def message : LoadError → String
  | .unreadable path _ => "failed to read config file " ++ path
  | .unusable path _ => "failed to parse config file " ++ path

/-- From the outermost text to the cause. -/
def chain (e : LoadError) : List String :=
  [e.message, match e with
    | .unreadable _ cause => cause.message
    | .unusable _ cause => cause.message]

end LoadError

def ofText (s : String) : Except Fault Layer :=
  match Toml.document? s with
  | none => .error .notToml
  | some es => (ofEntries es).mapError .misfit

def load (files : Files) (path : String) : Except LoadError Layer :=
  match files path with
  | .error e => .error (.unreadable path e)
  | .ok s => (ofText s).mapError (.unusable path)

end MagicBaud.Config

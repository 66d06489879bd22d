import MagicBaud.Config.Load
import MagicBaud.Hardware
import MagicBaud.Text.Split

namespace MagicBaud

inductive Failure where
  | listing (fault : Fault)
  | config (e : Config.LoadError)
  | switching (e : OpenError)

namespace Failure

/-- From the outermost text to the cause. -/
def chain : Failure → List String
  | .listing fault => ["Failed to enumerate serial ports", fault.message]
  | .config e => e.chain
  | .switching e => ["Baud switch on " ++ e.port ++ " failed", e.message, e.fault.message]

/-- A text behind a lead of its own, later lines under the first. -/
def hang (lead : String) (text : String) : String :=
  let margin := "\n" ++ String.ofList (List.replicate lead.length ' ')
  lead ++ margin.intercalate (Text.lines text)

/-- The causes, numbered from zero if there are several. -/
def causeLines : List String → List String
  | [] => []
  | [cause] => [hang "    " cause]
  | causes => causes.zipIdx.map fun (cause, i) =>
    let number := String.ofList (Text.Decimal.write i)
    hang (String.ofList (List.replicate (5 - number.length) ' ') ++ number ++ ": ") cause

def reportOf : List String → String
  | [] => ""
  | [text] => "Error: " ++ text ++ "\n"
  | text :: causes =>
    "Error: " ++ text ++ "\n\nCaused by:\n" ++ "\n".intercalate (causeLines causes) ++ "\n"

def report (f : Failure) : String := reportOf f.chain

end Failure
end MagicBaud

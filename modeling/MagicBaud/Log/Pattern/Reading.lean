import MagicBaud.Log.Pattern.Extent
import MagicBaud.Log.Pattern.Meaning
import MagicBaud.Log.Pattern.Written.Reading

namespace MagicBaud.Log.Pattern

/-- Why a text is no pattern that can be searched for. -/
inductive Rejection where
  | mistaken (m : Misreading)
  | tooLarge
  | unknownWords
  deriving DecidableEq

def Rejection.message (text : String) : Rejection → String
  | .mistaken m => m.message text
  | .tooLarge =>
    "Compiled regex exceeds size limit of " ++ String.ofList (Text.Decimal.write sizeLimit)
      ++ " bytes."
  | .unknownWords => "error building NFA"

/-- The pattern, unless no machine for it can be built. The forward one comes first; only then is it
seen what it asks for, and only then the backward one is built. -/
def buildable (p : Pattern) : Except Rejection Pattern :=
  if p.size .forward > sizeLimit then .error .tooLarge
  else if p.asksBeyondAscii then .error .unknownWords
  else if p.size .backward > sizeLimit then .error .tooLarge
  else .ok p

/-- Reads the text of a pattern. -/
def parse (text : String) : Except Rejection Pattern :=
  match (Written.ofText text).bind (Written.meaning {}) with
  | .ok (p, _) => buildable p
  | .error m => .error (.mistaken m)

end MagicBaud.Log.Pattern

import MagicBaud.Settings
import MagicBaud.Text.Quoted
import MagicBaud.Toml.Value

namespace MagicBaud.Config
open Toml

/-- Why an entry does not fit. -/
inductive Misfit where
  | unknownKey (key : String)
  | wrongType (found : Value) (expected : String)
  | negative (n : Integer)
  | noRate
  | unknownRate (e : UnknownRate)

/-- What a value is, for a message about its type. -/
def describe : Value → String
  | .text s => "string " ++ Text.quoted s
  | .integer n => "integer `" ++ n.text ++ "`"
  | .real x => "floating point `" ++ x.text ++ "`"
  | .boolean b => "boolean `" ++ (if b then "true" else "false") ++ "`"
  | .moment _ => "map"
  | .array _ => "sequence"
  | .table .. => "map"
  | .tables _ => "sequence"

def keys : List String := ["port", "baud", "neutral_baud", "settle_ms"]

def Misfit.message : Misfit → String
  | .unknownKey key =>
    "unknown field `" ++ key ++ "`, expected one of " ++
      ", ".intercalate (keys.map (fun k => "`" ++ k ++ "`"))
  | .wrongType found expected => "invalid type: " ++ describe found ++ ", expected " ++ expected
  | .negative n => "invalid value: integer `" ++ n.text ++ "`, expected u64"
  | .noRate => "data did not match any variant of untagged enum RawBaud"
  | .unknownRate e => e.message

/-- A rate is a number in range, or a text that names one. -/
def rateOf : Value → Except Misfit Rate
  | .text s => (Rate.parse s).mapError .unknownRate
  | .integer n =>
    if 0 ≤ n.val then
      match Rate.ofNat? n.val.toNat with
      | some r => .ok r
      | none => .error .noRate
    else .error .noRate
  | _ => .error .noRate

def portOf : Value → Except Misfit String
  | .text s => .ok s
  | v => .error (.wrongType v "a string")

def settleOf : Value → Except Misfit Millis
  | .integer n =>
    if h : 0 ≤ n.val then .ok ⟨n.val.toNat, by have := n.high; omega⟩ else .error (.negative n)
  | v => .error (.wrongType v "u64")

/-- Sets what the entry is about. -/
def setEntry (l : Layer) (key : String) (v : Value) : Except Misfit Layer :=
  if key = "port" then (portOf v).map (fun p => { l with port := some p })
  else if key = "baud" then (rateOf v).map (fun r => { l with rate := some r })
  else if key = "neutral_baud" then (rateOf v).map (fun r => { l with neutral := some r })
  else if key = "settle_ms" then (settleOf v).map (fun t => { l with settle := some t })
  else .error (.unknownKey key)

/-- The layer that a document stands for. -/
def ofEntries (es : Entries) : Except Misfit Layer :=
  es.foldlM (fun l (key, v) => setEntry l key v) Layer.empty

end MagicBaud.Config

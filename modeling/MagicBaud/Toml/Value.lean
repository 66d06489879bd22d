import MagicBaud.Toml.Moment
import MagicBaud.Toml.Number

namespace MagicBaud.Toml

/-- How a table was made, which decides how it may still grow: written out in braces, opened by a
header of its own, passed through by the header of another table, or made by a dotted key. -/
inductive Origin where
  | inline
  | header
  | implied
  | dotted
  deriving DecidableEq, Repr

inductive Value where
  | text (s : String)
  | integer (n : Integer)
  | real (x : Binary64)
  | boolean (b : Bool)
  | moment (m : Moment)
  | array (items : List Value)
  | table (origin : Origin) (entries : List (String × Value))
  | tables (elements : List (List (String × Value)))

instance : Inhabited Value := ⟨.boolean false⟩

/-- Keys with their values, in order. -/
abbrev Entries := List (String × Value)

end MagicBaud.Toml

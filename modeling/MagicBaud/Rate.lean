import MagicBaud.Text.Blank
import MagicBaud.Text.Decimal
import MagicBaud.Text.Lowercase

namespace MagicBaud

/-- A line speed in baud. Any 32-bit value is handed on unchecked, 0 included. -/
structure Rate where
  baud : Nat
  fits : baud < 4294967296
  deriving DecidableEq

namespace Rate

def ofNat? (n : Nat) : Option Rate := if h : n < 4294967296 then some ⟨n, h⟩ else none

/-- The rate that requests the boot loader. -/
def defaultTarget : Rate := ⟨14400, by decide⟩

/-- The rate at which a port is left. -/
def neutral : Rate := ⟨9600, by decide⟩

instance : Inhabited Rate := ⟨neutral⟩

def text (r : Rate) : String := String.ofList (Text.Decimal.write r.baud)

end Rate

/-- A name for a rate that boot loaders wait for. -/
structure Preset where
  name : String
  rate : Rate

namespace Preset

/-- Ascending by name. -/
def all : List Preset :=
  [⟨"arduino-reset", ⟨1200, by decide⟩⟩, ⟨"dfu", ⟨14400, by decide⟩⟩,
    ⟨"listen", ⟨28800, by decide⟩⟩, ⟨"listening", ⟨28800, by decide⟩⟩,
    ⟨"neutral", Rate.neutral⟩, ⟨"touch", ⟨1200, by decide⟩⟩]

/-- Letter case does not matter; blanks do. -/
def find? (name : String) : Option Rate :=
  (all.find? (fun p => p.name == Text.lowercase name)).map (·.rate)

def names : List String := all.map (·.name)

def help : String := "Presets: " ++ ", ".intercalate names

end Preset

/-- A text that is neither a number in range nor the name of a preset, without the blanks
around it. -/
structure UnknownRate where
  text : String
  deriving DecidableEq

def UnknownRate.message (e : UnknownRate) : String :=
  "invalid baud rate '" ++ e.text ++ "': expected an integer or a preset name"

/-- Reads a number or a preset name, blanks around it ignored. -/
def Rate.parse (s : String) : Except UnknownRate Rate :=
  let t := Text.trim s
  match (Text.Decimal.read (4294967296) t.toList).toOption.bind Rate.ofNat? with
  | some r => .ok r
  | none =>
    match Preset.find? t with
    | some r => .ok r
    | none => .error ⟨t⟩

end MagicBaud

import MagicBaud.Text.CharSet

namespace MagicBaud.Text

/-- The first byte of a range and the last. -/
abbrev ByteRange := Nat × Nat

namespace ByteRange

/-- Numbers of `places + 1` digits to the base 64, from one to another, as sequences of ranges of
digits. The first digit may be of any size. -/
def digits : (places : Nat) → (first last : Nat) → List (List ByteRange)
  | 0, first, last => [[(first, last)]]
  | places + 1, first, last =>
    let size := Nat.pow 64 (places + 1)
    let (low, lowRest) := (first / size, first % size)
    let (high, highRest) := (last / size, last % size)
    if low = high then (digits places lowRest highRest).map ((low, low) :: ·)
    else
      let head := if lowRest = 0 then []
        else (digits places lowRest (size - 1)).map ((low, low) :: ·)
      let tail := if highRest = size - 1 then []
        else (digits places 0 highRest).map ((high, high) :: ·)
      let start := if lowRest = 0 then low else low + 1
      let stop := if highRest = size - 1 then high + 1 else high
      let middle := if start < stop then
          (digits places 0 (size - 1)).map ((start, stop - 1) :: ·)
        else []
      head ++ middle ++ tail

/-- Code points that are encoded in one number of bytes: the first and the last, how many bytes
follow the first, and what marks that one. -/
structure Form where
  first : Nat
  last : Nat
  places : Nat
  mark : Nat

def forms : List Form :=
  [⟨0, 0x7F, 0, 0⟩, ⟨0x80, 0x7FF, 1, 0xC0⟩, ⟨0x800, 0xD7FF, 2, 0xE0⟩, ⟨0xE000, 0xFFFF, 2, 0xE0⟩,
    ⟨0x10000, 0x10FFFF, 3, 0xF0⟩]

def shift (offset : Nat) (r : ByteRange) : ByteRange := (r.1 + offset, r.2 + offset)

/-- The encodings of one range of code points in one form. -/
def Form.encode (f : Form) (r : Nat × Nat) : List (List ByteRange) :=
  let first := max f.first r.1
  let last := min f.last r.2
  if first > last then []
  else
    (digits f.places first last).map fun
      | [] => []
      | lead :: rest => shift f.mark lead :: rest.map (shift 0x80)

/-- The encodings of a set of characters, ascending. -/
def encode (s : CharSet) : List (List ByteRange) :=
  s.ranges.flatMap fun r => forms.flatMap (·.encode r)

end ByteRange
end MagicBaud.Text

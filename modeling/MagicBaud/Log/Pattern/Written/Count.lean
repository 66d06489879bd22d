import MagicBaud.Log.Pattern.Written.Cursor
import MagicBaud.Text.Decimal

namespace MagicBaud.Log.Pattern

/-- The least and the greatest number of repetitions. -/
structure Count where
  least : Nat
  most : Option Nat
  deriving DecidableEq

/-- Every count is below this. -/
def countLimit : Nat := 4294967296

/-- Reads a decimal number and the blanks around it. Whether it is one matters only later. -/
def readNumber (c : Cursor) : Except Misreading Nat × Cursor :=
  let (_, first) := c.takeWhile Text.isBlank
  let (digits, close) := first.takeWhile Char.isDigit
  let (_, after) := close.takeWhile Text.isBlank
  let span : Span := ⟨first.spot, close.spot⟩
  if digits.isEmpty then (mistaken .noCount span, after)
  else
    match Text.Decimal.readFrom countLimit 0 digits with
    | .ok n => (.ok n, after)
    | .error _ => (mistaken .largeCount span, after)

/-- Reads from the brace that closes a count. A question mark behind it only says which of several
matches is preferred. -/
def readCountEnd (start : Spot) (count : Except Misreading Count) (c : Cursor) : Reading Count :=
  count.bind fun count =>
    if !c.startsWith "\x7d" then mistaken .unclosedCount ⟨start, c.spot⟩
    else
      let after := c.step
      let after := if after.startsWith "?" then after.next else after
      if count.most.all (count.least ≤ ·) then .ok (count, after)
      else mistaken .reversedCount ⟨start, after.spot⟩

/-- Reads a count from its opening brace: one number, or a range that may be open above. -/
def readCount (c : Cursor) : Reading Count :=
  let start := c.spot
  let unclosed (c : Cursor) : Reading Count := mistaken .unclosedCount ⟨start, c.spot⟩
  let c := c.step
  if c.isAtEnd then unclosed c
  else
    let (least, c) := readNumber c
    if c.isAtEnd then unclosed c
    else if !c.startsWith "," then readCountEnd start (least.map fun n => ⟨n, some n⟩) c
    else
      let c := c.step
      if c.isAtEnd then unclosed c
      else if c.startsWith "\x7d" then readCountEnd start (least.map fun n => ⟨n, none⟩) c
      else
        let (most, c) := readNumber c
        readCountEnd start (least.bind fun n => most.map fun m => ⟨n, some m⟩) c

/-- The repetition that a sign stands for. -/
def countOfSign? (c : Char) : Option Count :=
  if c = '?' then some ⟨0, some 1⟩
  else if c = '*' then some ⟨0, none⟩
  else if c = '+' then some ⟨1, none⟩
  else none

/-- Passes over a sign, and over a question mark right behind it. -/
def passSign (c : Cursor) : Cursor :=
  if c.next.startsWith "?" then c.next.next else c.next

end MagicBaud.Log.Pattern

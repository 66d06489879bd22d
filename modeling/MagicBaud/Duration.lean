import MagicBaud.Text.Decimal

namespace MagicBaud

/-- A count of milliseconds. -/
structure Millis where
  count : Nat
  fits : count < 18446744073709551616
  deriving DecidableEq

namespace Millis

def ofNat? (n : Nat) : Option Millis := if h : n < 18446744073709551616 then some ⟨n, h⟩ else none

def zero : Millis := ⟨0, by decide⟩

instance : Inhabited Millis := ⟨zero⟩

end Millis

/-- Whole seconds and the nanoseconds above them. -/
structure Duration where
  seconds : Nat
  nanos : Nat
  seconds_lt : seconds < 18446744073709551616
  nanos_lt : nanos < 1000000000
  deriving DecidableEq

namespace Duration

def zero : Duration := ⟨0, 0, by decide, by decide⟩

instance : Inhabited Duration := ⟨zero⟩

def ofMillis (m : Millis) : Duration where
  seconds := m.count / 1000
  nanos := m.count % 1000 * 1000000
  seconds_lt := Nat.lt_of_le_of_lt (Nat.div_le_self _ _) m.fits
  nanos_lt := by omega

def ofNanos? (n : Nat) : Option Duration :=
  if h : n / 1000000000 < 18446744073709551616 then
    some ⟨n / 1000000000, n % 1000000000, h, Nat.mod_lt _ (by decide)⟩
  else none

def toNanos (d : Duration) : Nat := d.seconds * 1000000000 + d.nanos

def toMillis (d : Duration) : Nat := d.toNanos / 1000000

def isZero (d : Duration) : Bool := d.seconds == 0 && d.nanos == 0

/-- The `width` digits of a fraction after the point, without trailing zeros. -/
def fractionDigits (width : Nat) (n : Nat) : List Char :=
  let digits := Text.Decimal.write n
  let padded := List.replicate (width - digits.length) '0' ++ digits
  (padded.reverse.dropWhile (· == '0')).reverse

/-- A whole number and a fraction of `width` digits; a fraction of zero is left out. -/
def decimalText (whole : Nat) (width : Nat) (fraction : Nat) : List Char :=
  Text.Decimal.write whole ++
    if fraction = 0 then [] else '.' :: fractionDigits width fraction

/-- The exact length, in the largest of the units `s`, `ms`, `µs` and `ns` that it reaches. -/
def text (d : Duration) : String :=
  if d.seconds > 0 then
    String.ofList (decimalText d.seconds 9 d.nanos) ++ "s"
  else if d.nanos ≥ 1000000 then
    String.ofList (decimalText (d.nanos / 1000000) 6 (d.nanos % 1000000)) ++ "ms"
  else if d.nanos ≥ 1000 then
    String.ofList (decimalText (d.nanos / 1000) 3 (d.nanos % 1000)) ++ "µs"
  else
    String.ofList (decimalText d.nanos 0 0) ++ "ns"

end Duration
end MagicBaud

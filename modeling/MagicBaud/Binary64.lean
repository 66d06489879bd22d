import MagicBaud.Text.Decimal

namespace MagicBaud

/-- A finite number is `mantissa * 2 ^ exponent`, with a mantissa below `2 ^ 53` and the smallest
exponent that allows it, but none below -1074. -/
inductive Binary64 where
  | finite (negative : Bool) (mantissa : Nat) (exponent : Int)
  | infinite (negative : Bool)
  | notANumber
  deriving DecidableEq

namespace Binary64

def mantissaBits : Nat := 53

def leastExponent : Int := -1074

/-- The quotient rounded to the nearest whole number, a half to the even one. -/
def roundQuotient (num den : Nat) : Nat :=
  let q := num / den
  let twice := 2 * (num % den)
  if twice > den || (twice == den && q % 2 == 1) then q + 1 else q

/-- The numerator and the denominator after multiplying the quotient by `base ^ power`. -/
def scale (base : Nat) (power : Int) (num den : Nat) : Nat × Nat :=
  if power ≥ 0 then (num * Nat.pow base power.toNat, den)
  else (num, den * Nat.pow base (-power).toNat)

/-- The largest `k` with `2 ^ k ≤ num / den`. -/
def floorLog2 (num den : Nat) : Int :=
  let k : Int := (num.log2 : Int) - den.log2
  let (n, d) := scale 2 (-k) num den
  if n ≥ d then k else k - 1

/-- The number nearest to a positive quotient; from `2 ^ 1024` on, infinity. -/
def ofQuotient (negative : Bool) (num den : Nat) : Binary64 :=
  let exponent := max (floorLog2 num den - (mantissaBits - 1)) leastExponent
  let (n, d) := scale 2 (-exponent) num den
  let rounded := roundQuotient n d
  let (mantissa, exponent) :=
    if rounded = Nat.pow 2 mantissaBits then (Nat.pow 2 (mantissaBits - 1), exponent + 1)
    else (rounded, exponent)
  if exponent > 1024 - mantissaBits then .infinite negative
  else .finite negative mantissa exponent

/-- The number nearest to `digits * 10 ^ power`. Decimals far outside the range are decided by
their length alone. -/
def ofDecimal (negative : Bool) (digits : Nat) (power : Int) : Binary64 :=
  if digits = 0 then .finite negative 0 leastExponent
  else
    let places := (Nat.toDigits 10 digits).length + power
    if places > 310 then .infinite negative
    else if places < -330 then .finite negative 0 leastExponent
    else
      let (num, den) := scale 10 power digits 1
      ofQuotient negative num den

/-- The ends of the interval of numbers that round to `mantissa * 2 ^ exponent`, in quarters of
`2 ^ exponent`. Below a power of two the numbers lie twice as close. -/
def roundingInterval (mantissa : Nat) (exponent : Int) : Nat × Nat :=
  let narrow := mantissa = Nat.pow 2 (mantissaBits - 1) ∧ exponent > leastExponent
  (4 * mantissa - (if narrow then 1 else 2), 4 * mantissa + 2)

/-- The largest `k` with `10 ^ k ≤ num / den`, sought downwards from `k = start`. -/
def floorLog10 (num den : Nat) : Nat → Int → Int
  | 0, start => start
  | steps + 1, start =>
    let (n, d) := scale 10 (-start) num den
    if n ≥ d then start else floorLog10 num den steps (start - 1)

/-- A decimal `digits * 10 ^ power`. -/
structure Shortest where
  digits : Nat
  power : Int

/-- The same decimal without zeros at the end of its digits. -/
def Shortest.reduce (s : Shortest) : Shortest :=
  if h : s.digits ≠ 0 ∧ s.digits % 10 = 0 then reduce ⟨s.digits / 10, s.power + 1⟩ else s
termination_by s.digits
decreasing_by omega

/-- Whether the decimal lies in the interval of numbers that round to the given one. The ends
belong to it when the mantissa is even. -/
def readsBack (mantissa : Nat) (exponent : Int) (s : Shortest) : Bool :=
  let (low, high) := roundingInterval mantissa exponent
  let (n, d) := scale 10 s.power s.digits 1
  let (n, d) := scale 2 (2 - exponent) n d
  if mantissa % 2 = 0 then low * d ≤ n && n ≤ high * d else low * d < n && n < high * d

/-- The nearer of the two decimals next to the number, at steps of `10 ^ power`, that read back. Of
two that are equally near the upper one is taken. -/
def nearestOnGrid (mantissa : Nat) (exponent : Int) (power : Int) : Option Shortest :=
  let (n, d) := scale 2 exponent mantissa 1
  let (n, d) := scale 10 (-power) n d
  let below : Shortest := ⟨n / d, power⟩
  let above : Shortest := ⟨n / d + 1, power⟩
  let lowFits := readsBack mantissa exponent below
  let highFits := readsBack mantissa exponent above
  let nearer := if 2 * (n % d) < d then below else above
  if lowFits && highFits then some nearer
  else if lowFits then some below
  else if highFits then some above
  else none

/-- The decimal with the fewest digits that reads back, the nearest of these. -/
def shortest (mantissa : Nat) (exponent : Int) : Shortest :=
  let (n, d) := scale 2 exponent mantissa 1
  let top := floorLog10 n d 700 310
  let grids := (List.range 17).map (fun (i : Nat) => top - i)
  match grids.findSome? (nearestOnGrid mantissa exponent) with
  | some s => s.reduce
  | none => ⟨roundQuotient n d, 0⟩

/-- A decimal without exponent and with a point; a whole number has a zero after it. -/
def positional (s : Shortest) : List Char :=
  let digits := Text.Decimal.write s.digits
  if s.power ≥ 0 then digits ++ List.replicate s.power.toNat '0' ++ ['.', '0']
  else
    let places := (-s.power).toNat
    let padded := List.replicate (places + 1 - digits.length) '0' ++ digits
    padded.take (padded.length - places) ++ '.' :: padded.drop (padded.length - places)

/-- The shortest text that reads back, never with an exponent. -/
def text : Binary64 → String
  | .finite negative mantissa exponent =>
    let digits :=
      if mantissa = 0 then ['0', '.', '0'] else positional (shortest mantissa exponent)
    String.ofList (if negative then '-' :: digits else digits)
  | .infinite negative => if negative then "-inf" else "inf"
  | .notANumber => "NaN"

end Binary64
end MagicBaud

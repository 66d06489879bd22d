import MagicBaud.Binary64
import MagicBaud.Toml.Quotation

namespace MagicBaud.Toml

/-- Digits, where a single underscore may stand between two of them. -/
def digits? (digit? : Char → Option Nat) : List Char → Option (List Nat)
  | [] => none
  | [c] => (digit? c).map ([·])
  | c :: '_' :: cs => do
    let d ← digit? c
    (digits? digit? cs).map (d :: ·)
  | c :: cs => do
    let d ← digit? c
    (digits? digit? cs).map (d :: ·)

def ofDigits (base : Nat) (ds : List Nat) : Nat := ds.foldl (fun n d => n * base + d) 0

/-- Decimal digits without a leading zero. -/
def wholeDigits? (cs : List Char) : Option (List Nat) := do
  let ds ← digits? Text.Decimal.digit? cs
  if ds.length > 1 && ds.head? == some 0 then none else some ds

/-- A sign, if there is one, and what follows it; true for a minus. -/
def sign : List Char → Bool × List Char
  | '+' :: cs => (false, cs)
  | '-' :: cs => (true, cs)
  | cs => (false, cs)

/-- A whole number of 64 bits, the sign included. -/
structure Integer where
  val : Int
  low : -9223372036854775808 ≤ val
  high : val < 9223372036854775808
  deriving DecidableEq

def Integer.ofInt? (n : Int) : Option Integer :=
  if h : -9223372036854775808 ≤ n ∧ n < 9223372036854775808 then some ⟨n, h.1, h.2⟩ else none

def Integer.text (n : Integer) : String :=
  let digits := Text.Decimal.write n.val.natAbs
  String.ofList (if n.val < 0 then '-' :: digits else digits)

def digitBelow? (base : Nat) (c : Char) : Option Nat :=
  (hexDigit? c).filter (· < base)

def basedInteger? (base : Nat) (cs : List Char) : Option Int :=
  (digits? (digitBelow? base) cs).map (fun ds => (ofDigits base ds : Int))

def decimalInteger? (cs : List Char) : Option Int :=
  let (negative, unsigned) := sign cs
  (wholeDigits? unsigned).map fun ds =>
    if negative then -(ofDigits 10 ds : Int) else ofDigits 10 ds

/-- A sign goes with decimal digits only. -/
def integer? (cs : List Char) : Option Integer :=
  let n := match cs with
    | '0' :: 'x' :: ds => basedInteger? 16 ds
    | '0' :: 'o' :: ds => basedInteger? 8 ds
    | '0' :: 'b' :: ds => basedInteger? 2 ds
    | _ => decimalInteger? cs
  n.bind Integer.ofInt?

/-- Cuts at the first character with the property, which is dropped. -/
def cutWhere (p : Char → Bool) (cs : List Char) : List Char × Option (List Char) :=
  match cs.dropWhile (!p ·) with
  | [] => (cs, none)
  | _ :: after => (cs.takeWhile (!p ·), some after)

/-- The digits after the point; none if there is no point. -/
def fraction? : Option (List Char) → Option (List Nat)
  | none => some []
  | some cs => digits? Text.Decimal.digit? cs

/-- The power of ten; zero if there is no exponent. -/
def exponent? : Option (List Char) → Option Int
  | none => some 0
  | some cs =>
    let (negative, unsigned) := sign cs
    (digits? Text.Decimal.digit? unsigned).map fun ds =>
      if negative then -(ofDigits 10 ds : Int) else ofDigits 10 ds

/-- A number with a fraction, an exponent or both. A positive one beyond the range is refused; a
negative one becomes infinite. -/
def decimalReal? (negative : Bool) (cs : List Char) : Option Binary64 := do
  let (mantissa, power) := cutWhere (fun c => c == 'e' || c == 'E') cs
  let (whole, point) := cutWhere (· == '.') mantissa
  if power.isNone && point.isNone then none
  else
    let ds ← wholeDigits? whole
    let fs ← fraction? point
    let e ← exponent? power
    let x := Binary64.ofDecimal negative (ofDigits 10 (ds ++ fs)) (e - fs.length)
    if x = .infinite false then none else some x

def real? (cs : List Char) : Option Binary64 :=
  let (negative, unsigned) := sign cs
  if unsigned = "inf".toList then some (.infinite negative)
  else if unsigned = "nan".toList then some .notANumber
  else decimalReal? negative unsigned

end MagicBaud.Toml

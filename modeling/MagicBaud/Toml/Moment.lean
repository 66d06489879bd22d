import MagicBaud.Text.Decimal

namespace MagicBaud.Toml

structure Date where
  year : Nat
  month : Nat
  day : Nat
  deriving DecidableEq

structure Clock where
  hour : Nat
  minute : Nat
  second : Nat
  nanos : Nat
  deriving DecidableEq

/-- A date, a time of day or both; with both there may be an offset from universal time, in
minutes. -/
structure Moment where
  date : Option Date
  clock : Option Clock
  offset : Option Int
  deriving DecidableEq

def number? (cs : List Char) : Option Nat := do
  let ds ← cs.mapM Text.Decimal.digit?
  some (ds.foldl (fun n d => n * 10 + d) 0)

/-- The number that the digits write, if it lies between the two bounds. -/
def between? (low high : Nat) (cs : List Char) : Option Nat :=
  (number? cs).filter (fun n => low ≤ n && n ≤ high)

def isLeap (year : Nat) : Bool := year % 4 == 0 && (year % 100 != 0 || year % 400 == 0)

def daysIn (year month : Nat) : Nat :=
  if month = 2 then (if isLeap year then 29 else 28)
  else if month = 4 ∨ month = 6 ∨ month = 9 ∨ month = 11 then 30
  else 31

/-- A day of the calendar. -/
def date? : List Char → Option Date
  | [y₁, y₂, y₃, y₄, '-', m₁, m₂, '-', d₁, d₂] => do
    let year ← number? [y₁, y₂, y₃, y₄]
    let month ← between? 1 12 [m₁, m₂]
    let day ← between? 1 (daysIn year month) [d₁, d₂]
    some ⟨year, month, day⟩
  | _ => none

/-- Billionths of a second from the digits after the point; later digits are dropped. -/
def nanos (ds : List Nat) : Nat :=
  ((ds ++ List.replicate 9 0).take 9).foldl (fun n d => n * 10 + d) 0

/-- A time of day and what follows it. A minute may have sixty-one seconds. -/
def clock? : List Char → Option (Clock × List Char)
  | h₁ :: h₂ :: ':' :: m₁ :: m₂ :: ':' :: s₁ :: s₂ :: cs => do
    let hour ← between? 0 23 [h₁, h₂]
    let minute ← between? 0 59 [m₁, m₂]
    let second ← between? 0 60 [s₁, s₂]
    match cs with
    | '.' :: fs =>
      let ds := (fs.takeWhile (fun c => (Text.Decimal.digit? c).isSome)).filterMap
        Text.Decimal.digit?
      if ds.isEmpty then none
      else some (⟨hour, minute, second, nanos ds⟩, fs.drop ds.length)
    | _ => some (⟨hour, minute, second, 0⟩, cs)
  | _ => none

/-- An offset from universal time, in minutes; none where the text ends. -/
def offset? : List Char → Option (Option Int)
  | [] => some none
  | ['Z'] => some (some 0)
  | ['z'] => some (some 0)
  | [sign, h₁, h₂, ':', m₁, m₂] => do
    let hour ← between? 0 23 [h₁, h₂]
    let minute ← between? 0 59 [m₁, m₂]
    if sign = '+' then some (some (hour * 60 + minute))
    else if sign = '-' then some (some (-(hour * 60 + minute : Int)))
    else none
  | _ => none

/-- A time of day on a date, with or without an offset. -/
def timeOn? (date : Date) (cs : List Char) : Option Moment := do
  let (clock, rest) ← clock? cs
  let offset ← offset? rest
  some ⟨some date, some clock, offset⟩

/-- A word that is a date, a date and a time joined by `T`, or a time of day. -/
def moment? (cs : List Char) : Option Moment :=
  match date? (cs.take 10), cs.drop 10 with
  | some date, [] => some ⟨some date, none, none⟩
  | some date, 'T' :: rest => timeOn? date rest
  | some date, 't' :: rest => timeOn? date rest
  | some _, _ => none
  | none, _ =>
    match clock? cs with
    | some (clock, []) => some ⟨none, some clock, none⟩
    | _ => none

end MagicBaud.Toml

import MagicBaud.Text.CharSet

namespace MagicBaud.Log

/-- The edges of words. A half looks to one side only. -/
inductive Edge where
  | either
  | neither
  | start
  | finish
  | startHalf
  | finishHalf
  deriving DecidableEq

/-- What may be asked of a place. Whether words are of ASCII alone is part of the question. -/
inductive Anchor where
  | start
  | finish
  | lineStart (withReturn : Bool)
  | lineFinish (withReturn : Bool)
  | edge (e : Edge) (isAscii : Bool)
  deriving DecidableEq

/-- What log texts are searched for. Against a text a pattern is a way in which sets of places move,
from where matches may begin to where they end. -/
inductive Pattern where
  | empty
  | one (chars : Text.CharSet)
  | place (a : Anchor)
  | group (part : Pattern)
  | both (first second : Pattern)
  | either (first second : Pattern)
  | repeated (part : Pattern) (least : Nat) (most : Option Nat)
  deriving DecidableEq

def isWordChar (c : Char) : Bool := c.isAlphanum || c = '_'

/-- Whether there is such an edge between two characters. -/
def Edge.between (before after : Option Char) : Edge → Bool
  | .either => before.any isWordChar != after.any isWordChar
  | .neither => before.any isWordChar == after.any isWordChar
  | .start => !before.any isWordChar && after.any isWordChar
  | .finish => before.any isWordChar && !after.any isWordChar
  | .startHalf => !before.any isWordChar
  | .finishHalf => !after.any isWordChar

/-- Whether the place between two characters is as asked. A carriage return and the line feed behind
it are not parted. -/
def Anchor.between (before after : Option Char) : Anchor → Bool
  | .start => before = none
  | .finish => after = none
  | .lineStart false => before = none || before = some '\n'
  | .lineFinish false => after = none || after = some '\n'
  | .lineStart true =>
    before = none || before = some '\n' || (before = some '\r' && after ≠ some '\n')
  | .lineFinish true =>
    after = none || after = some '\r' || (after = some '\n' && before ≠ some '\r')
  | .edge e _ => e.between before after

/-- A set of places as a number: its bits are the places that belong to it. -/
abbrev Places := Nat

namespace Places

/-- The places of a text that pass a test of the characters on either side. -/
def passing (test : Option Char → Option Char → Bool) : Option Char → List Char → Places
  | before, [] => if test before none then 1 else 0
  | before, c :: cs => (if test before (some c) then 1 else 0) + 2 * passing test (some c) cs

def without (s t : Places) : Places := (s ||| t) ^^^ t

end Places

/-- How sets of places move along a text. What is repeated may take a shorter way once it has been
taken often enough. -/
inductive Course where
  | stay
  | stayAt (places : Places)
  | stepFrom (places : Places)
  | both (first second : Course)
  | either (first second : Course)
  | repeated (part round : Course) (least : Nat) (most : Option Nat)

namespace Course

/-- Whether every place moves to itself at least. -/
def keepsAll : Course → Bool
  | .stay => true
  | .stayAt _ | .stepFrom _ => false
  | .both first second => first.keepsAll && second.keepsAll
  | .either first second => first.keepsAll || second.keepsAll
  | .repeated part _ least _ => least = 0 || part.keepsAll

/-- A course that reaches the same places when it is repeated without end. What it repeats itself it
need not repeat any more. -/
def round : Course → Course
  | .either first second => .either first.round second.round
  | .both first second =>
    if first.keepsAll && second.keepsAll then .either first.round second.round
    else .both first second
  | .repeated part round least most =>
    if least ≤ 1 && most ≠ some 0 then round else .repeated part round least most
  | c => c

/-- Moves on exactly so many times. A set that does not change will not change any more. -/
def times (move : Places → Places) : Nat → Places → Places
  | 0, s => s
  | n + 1, s =>
    let moved := move s
    if moved = s then s else times move n moved

/-- All that is reached by at most so many moves from the newest of the places found so far. -/
def within (move : Places → Places) : Nat → (found newest : Places) → Places
  | 0, found, _ => found
  | n + 1, found, newest =>
    let new := (move newest).without found
    if new = 0 then found else within move n (found ||| new) new

/-- Where a set of places moves, along a text with so many places. No move goes back, so that moves
beyond one for each place reach nothing new. -/
def move (count : Nat) : Course → Places → Places
  | .stay, s => s
  | .stayAt places, s => s &&& places
  | .stepFrom places, s => (s &&& places) <<< 1
  | .both first second, s => second.move count (first.move count s)
  | .either first second, s => first.move count s ||| second.move count s
  | .repeated part round least most, s =>
    let reached := times (part.move count) (min least count) s
    match most with
    | some most => within (part.move count) (min (most - least) count) reached reached
    | none => within (round.move count) count reached reached

end Course

namespace Pattern

/-- What the pattern does to places of a text. -/
def course (cs : List Char) : Pattern → Course
  | .empty => .stay
  | .one chars => .stepFrom (Places.passing (fun _ after => after.any chars.contains) none cs)
  | .place a => .stayAt (Places.passing (fun before after => a.between before after) none cs)
  | .group part => part.course cs
  | .both first second => .both (first.course cs) (second.course cs)
  | .either first second => .either (first.course cs) (second.course cs)
  | .repeated part least most =>
    let part := part.course cs
    .repeated part part.round least most

/-- Whether there is a match anywhere in the text. -/
def occursIn (p : Pattern) (s : String) : Bool :=
  let cs := s.toList
  let all := Places.passing (fun _ _ => true) none cs
  (p.course cs).move (cs.length + 1) all ≠ 0

end Pattern
end MagicBaud.Log

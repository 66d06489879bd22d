import MagicBaud.Log.Pattern

namespace MagicBaud.Log.Pattern

/-- The pattern without any match. -/
def never : Pattern := .one .empty

/-- One pattern behind the other. -/
def andThen (first second : Pattern) : Pattern :=
  if first = .empty then second
  else if second = .empty then first
  else .both first second

def sequence (parts : List Pattern) : Pattern := parts.foldr andThen .empty

/-- The patterns that there is a choice between. -/
def choices : Pattern → List Pattern
  | .either first second => first.choices ++ second.choices
  | p => [p]

def chars? : Pattern → Option Text.CharSet
  | .one chars => some chars
  | _ => none

/-- A choice between at least one pattern. -/
def chain : List Pattern → Pattern
  | [] => never
  | [p] => p
  | p :: ps => .either p (chain ps)

/-- A choice; between single characters it is itself a single character. -/
def choice (parts : List Pattern) : Pattern :=
  let parts := parts.flatMap choices
  match parts.mapM chars? with
  | some sets => .one (sets.foldl .union .empty)
  | none => chain parts

def isLetter : Pattern → Bool
  | .one chars => chars.only?.isSome
  | _ => false

def holdsGroup : Pattern → Bool
  | .empty | .one _ | .place _ => false
  | .group _ => true
  | .both first second | .either first second => first.holdsGroup || second.holdsGroup
  | .repeated part _ _ => part.holdsGroup

/-- The patterns that follow one another. -/
def parts : Pattern → List Pattern
  | .empty => []
  | .both first second => first.parts ++ second.parts
  | p => [p]

/-- The parts with letters in a row taken together. -/
def segments (p : Pattern) : List (List Pattern) :=
  p.parts.splitBy fun first second => first.isLetter && second.isLetter

/-- How many segments two lists begin with alike. Each group is one of its own. -/
def sharedCount : List (List Pattern) → List (List Pattern) → Nat
  | s :: ss, t :: ts => if s = t && !s.any holdsGroup then sharedCount ss ts + 1 else 0
  | _, _ => 0

/-- How many segments all alternatives begin with alike. One of a single segment shares nothing. -/
def sharedBeginning (alternatives : List (List (List Pattern))) : Nat :=
  match alternatives with
  | [] | [_] => 0
  | first :: others =>
    if alternatives.all (·.length > 1) then
      others.foldl (fun count other => min count (sharedCount first other)) first.length
    else 0

/-- A choice with what all alternatives begin with in front of it. -/
def anyOf (alternatives : List Pattern) : Pattern :=
  let plain := choice alternatives
  let segmented := plain.choices.map segments
  match sharedBeginning segmented, segmented with
  | 0, _ | _, [] => plain
  | count, first :: _ =>
    let rests := segmented.map fun segments => sequence (segments.drop count).flatten
    andThen (sequence (first.take count).flatten) (choice rests)

/-- Whether all matches are of nothing. -/
def takesNothing : Pattern → Bool
  | .empty | .place _ => true
  | .one _ => false
  | .group part => part.takesNothing
  | .both first second | .either first second => first.takesNothing && second.takesNothing
  | .repeated part _ most => most.isSome && part.takesNothing

/-- A repetition. What takes nothing is repeated at most once. -/
def times (part : Pattern) (least : Nat) (most : Option Nat) : Pattern :=
  let (least, most) :=
    if part.takesNothing then (min least 1, some (min (most.getD 1) 1)) else (least, most)
  if least = 0 && most = some 0 then .empty
  else if least = 1 && most = some 1 then part
  else .repeated part least most

end MagicBaud.Log.Pattern

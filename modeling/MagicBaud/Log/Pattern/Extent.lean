import MagicBaud.Log.Pattern.Simple
import MagicBaud.Text.ByteRange

namespace MagicBaud.Log.Pattern

open Text (ByteRange CharSet)

/-- What a state takes, in bytes. -/
def stateSize : Nat := 32

/-- What each further step from a state takes. -/
def stepSize : Nat := 8

/-- What each branch from a state takes. -/
def branchSize : Nat := 4

/-- The size that no machine may exceed. -/
def sizeLimit : Nat := 10485760

inductive Direction where
  | forward
  | backward
  deriving DecidableEq

/-- Sequences by their first ranges, each with what follows it. -/
def byFirst : List (List ByteRange) → List (ByteRange × List (List ByteRange))
  | [] => []
  | [] :: seqs => byFirst seqs
  | (r :: rest) :: seqs =>
    match byFirst seqs with
    | (r', rests) :: groups =>
      if r = r' then (r, rest :: rests) :: groups else (r, [rest]) :: (r', rests) :: groups
    | [] => [(r, [rest])]

/-- All sets of sequences that are still to be read after some bytes, but for the finished one. -/
def pending : (depth : Nat) → List (List ByteRange) → List (List (List ByteRange))
  | 0, _ => []
  | depth + 1, seqs =>
    if seqs = [[]] then [] else seqs :: (byFirst seqs).flatMap fun (_, rests) => pending depth rests

/-- Characters are encoded in at most so many bytes. -/
def longestEncoding : Nat := 4

/-- A forward machine shares what follows alike. -/
def forwardClassSize (seqs : List (List ByteRange)) : Nat :=
  let states := (pending longestEncoding seqs).eraseDups
  states.foldl (fun size s => size + stateSize + stepSize * (byFirst s).length) stateSize

/-- The beginnings of a list, but for the empty one. -/
def beginnings : List ByteRange → List (List ByteRange)
  | [] => []
  | r :: rs => [r] :: (beginnings rs).map (r :: ·)

/-- A backward machine shares what precedes alike. -/
def backwardClassSize (seqs : List (List ByteRange)) : Nat :=
  let states := (seqs.flatMap beginnings).eraseDups
  2 * stateSize + branchSize * seqs.length + stateSize * states.length

def classSize (d : Direction) (chars : CharSet) : Nat :=
  match chars.only? with
  | some c => stateSize * c.utf8Size
  | none =>
    if chars.isAscii then 2 * stateSize + stepSize * chars.ranges.length
    else
      match d with
      | .forward => forwardClassSize (ByteRange.encode chars)
      | .backward => backwardClassSize (ByteRange.encode chars)

/-- The bytes that a pattern without any choice matches. -/
def literal? : Pattern → Option (List UInt8)
  | .one chars => chars.only?.map String.utf8EncodeChar
  | .both first second =>
    match first.literal?, second.literal? with
    | some bs, some cs => some (bs ++ cs)
    | _, _ => none
  | _ => none

/-- Literals up to the next one that is at its end, run by run. -/
def literalRuns : List (List UInt8) → List (List (List UInt8))
  | [] => [[]]
  | [] :: ls => [] :: literalRuns ls
  | l :: ls =>
    match literalRuns ls with
    | run :: runs => (l :: run) :: runs
    | [] => [[l]]

/-- What follows each of the bytes that literals begin with. -/
def byFirstByte (ls : List (List UInt8)) : List (List (List UInt8)) :=
  (ls.filterMap List.head?).eraseDups.map fun b =>
    (ls.filter (·.head? = some b)).map List.tail

/-- The size of a choice between literals of at most `depth` bytes, without its end. Literals of one
run share how they begin; the order of the others has to be kept, also by ends that come between. -/
def forkSize : (depth : Nat) → List (List UInt8) → Nat
  | 0, _ => 0
  | depth + 1, ls =>
    if ls.all List.isEmpty then 0
    else
      let ls := if ls.head? = some [] then [] :: ls.dropWhile List.isEmpty else ls
      let runs := (literalRuns ls).map byFirstByte
      let forks := runs.filter (!·.isEmpty)
      let ways := forks.length + (runs.length - 1)
      let branches := if ways = 1 then 0 else stateSize + branchSize * ways
      forks.foldl
        (fun size rests =>
          let steps := if rests.length = 1 then 0 else stepSize * rests.length
          rests.foldl (fun size ls => size + forkSize depth ls) (size + stateSize + steps))
        branches

def literalsSize (ls : List (List UInt8)) : Nat :=
  stateSize + forkSize (ls.foldl (fun n l => max n l.length) 0) ls

/-- The length of the shortest match, unless there is none. -/
def shortest? : Pattern → Option Nat
  | .empty | .place _ => some 0
  | .one chars => if chars = .empty then none else some 1
  | .group part => part.shortest?
  | .both first second =>
    match first.shortest?, second.shortest? with
    | some n, some m => some (n + m)
    | _, _ => none
  | .either first second =>
    match first.shortest?, second.shortest? with
    | some n, some m => some (min n m)
    | _, _ => none
  | .repeated part least _ => part.shortest?.map (least * ·)

/-- The size of a repetition by the size of its part. -/
def repeatedSize (part : Nat) (partTakes : Bool) (least : Nat) (most : Option Nat) : Nat :=
  let branch := stateSize + 2 * branchSize
  match most with
  | none =>
    if least = 0 then
      if partTakes then branch + part else 2 * branch + stateSize + part
    else least * part + branch
  | some most =>
    if least = 0 && most = 1 then branch + part + stateSize
    else if least = most then least * part
    else
      let certain := if least = 0 then stateSize else least * part
      certain + stateSize + (most - least) * (branch + part)

/-- The size of the machine for a pattern, without what it begins and ends with. A choice within a
choice is part of it. -/
def bodySize (d : Direction) : (isWithinChoice : Bool) → Pattern → Nat
  | _, .empty | _, .place _ => stateSize
  | _, .one chars => classSize d chars
  | _, .group part =>
    bodySize d false part + (if d = .forward then 2 * stateSize else 0)
  | _, .both first second => bodySize d false first + bodySize d false second
  | isWithinChoice, .either first second =>
    let parts := bodySize d true first + bodySize d true second
    if isWithinChoice then parts
    else
      let choices := (Pattern.either first second).choices
      match choices.mapM literal? with
      | some ls => literalsSize (if d = .forward then ls else ls.map List.reverse)
      | none => parts + 2 * stateSize + branchSize * choices.length
  | _, .repeated part least most =>
    repeatedSize (bodySize d false part) (part.shortest?.any (· > 0)) least most

/-- Whether every match begins, or ends, with an end of the text. -/
def isAnchored (d : Direction) : Pattern → Bool
  | .place .start => d = .forward
  | .place .finish => d = .backward
  | .empty | .one _ | .place _ => false
  | .group part => part.isAnchored d
  | .both first second =>
    match d with
    | .forward => first.isAnchored d || (first.takesNothing && second.isAnchored d)
    | .backward => second.isAnchored d || (second.takesNothing && first.isAnchored d)
  | .either first second => first.isAnchored d && second.isAnchored d
  | .repeated part least _ => least > 0 && part.isAnchored d

/-- The size of the whole machine. One that is not anchored can pass over any bytes before a match;
a forward one notes where the match begins and ends. -/
def size (d : Direction) (p : Pattern) : Nat :=
  let passing := if p.isAnchored d then stateSize
    else 3 * stateSize + stepSize + 2 * branchSize
  let notes := if d = .forward then 2 * stateSize else 0
  passing + notes + bodySize d false p + stateSize

/-- Whether anything is asked about the edges of words beyond ASCII. -/
def asksBeyondAscii : Pattern → Bool
  | .place (.edge _ isAscii) => !isAscii
  | .empty | .one _ | .place _ => false
  | .group part | .repeated part _ _ => part.asksBeyondAscii
  | .both first second | .either first second => first.asksBeyondAscii || second.asksBeyondAscii

end MagicBaud.Log.Pattern

namespace MagicBaud.Text

/-- A set of characters by the code points at which membership turns: its members begin at the
first, end before the second, begin again at the third, and so on. The turns ascend. -/
structure CharSet where
  turns : List Nat
  deriving DecidableEq, Repr

namespace CharSet

def empty : CharSet := ⟨[]⟩

def all : CharSet := ⟨[0, 0x110000]⟩

def range (first last : Char) : CharSet :=
  if first ≤ last then ⟨[first.toNat, last.toNat + 1]⟩ else empty

def single (c : Char) : CharSet := range c c

/-- Whether a code point is a member, from whether those before the first turn are. -/
def holds : Bool → List Nat → Nat → Bool
  | inside, [], _ => inside
  | inside, turn :: turns, n => if n < turn then inside else holds (!inside) turns n

def contains (s : CharSet) (c : Char) : Bool := holds false s.turns c.toNat

/-- A turn, unless nothing changes at it. -/
def turnUnless (same : Bool) (turn : Nat) (turns : List Nat) : List Nat :=
  if same then turns else turn :: turns

/-- The turns of a set whose members are told by membership in two others. -/
def merge (op : Bool → Bool → Bool) : Bool → Bool → List Nat → List Nat → List Nat
  | _, _, [], [] => []
  | a, b, s :: ss, [] => turnUnless (op a b == op (!a) b) s (merge op (!a) b ss [])
  | a, b, [], t :: ts => turnUnless (op a b == op a (!b)) t (merge op a (!b) [] ts)
  | a, b, s :: ss, t :: ts =>
    if s < t then turnUnless (op a b == op (!a) b) s (merge op (!a) b ss (t :: ts))
    else if t < s then turnUnless (op a b == op a (!b)) t (merge op a (!b) (s :: ss) ts)
    else turnUnless (op a b == op (!a) (!b)) s (merge op (!a) (!b) ss ts)
termination_by _ _ ss ts => ss.length + ts.length

def union (s t : CharSet) : CharSet := ⟨merge (· || ·) false false s.turns t.turns⟩

def inter (s t : CharSet) : CharSet := ⟨merge (· && ·) false false s.turns t.turns⟩

def diff (s t : CharSet) : CharSet := ⟨merge (fun a b => a && !b) false false s.turns t.turns⟩

/-- What is in one of the sets only. -/
def either (s t : CharSet) : CharSet := ⟨merge (· != ·) false false s.turns t.turns⟩

def complement (s : CharSet) : CharSet := all.diff s

def ofRanges (rs : List (Char × Char)) : CharSet :=
  rs.foldl (fun s (first, last) => s.union (range first last)) empty

/-- The members as ranges that do not touch. -/
def ranges (s : CharSet) : List (Nat × Nat) := pairs s.turns
where
  pairs : List Nat → List (Nat × Nat)
    | first :: next :: turns => (first, next - 1) :: pairs turns
    | _ => []

/-- The set without regard to the case of ASCII letters. -/
def caseless (s : CharSet) : CharSet :=
  let small := s.inter (range 'a' 'z')
  let large := s.inter (range 'A' 'Z')
  (s.union ⟨small.turns.map (· - 32)⟩).union ⟨large.turns.map (· + 32)⟩

def isAscii (s : CharSet) : Bool := s.turns.all (· ≤ 0x80)

/-- The only member of the set. -/
def only? (s : CharSet) : Option Char :=
  match s.ranges with
  | [(first, last)] => if first = last then some (Char.ofNat first) else none
  | _ => none

end CharSet
end MagicBaud.Text

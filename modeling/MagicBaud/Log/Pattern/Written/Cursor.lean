import MagicBaud.Log.Pattern.Mistake
import MagicBaud.Text.Blank

namespace MagicBaud.Log.Pattern

structure Cursor where
  rest : List Char
  spot : Spot := {}
  verbose : Bool := false

namespace Cursor

def isAtEnd (c : Cursor) : Bool := c.rest.isEmpty

def startsWith (c : Cursor) (s : String) : Bool := s.toList.isPrefixOf c.rest

/-- The empty span before what is left. -/
def here (c : Cursor) : Span := .empty c.spot

/-- The span of the next character. -/
def charSpan (c : Cursor) : Span :=
  match c.rest with
  | ch :: _ => ⟨c.spot, c.spot.past ch⟩
  | [] => c.here

def next (c : Cursor) : Cursor :=
  match c.rest with
  | ch :: rest => { c with rest := rest, spot := c.spot.past ch }
  | [] => c

/-- Passes over so many characters. -/
def drop : Nat → Cursor → Cursor
  | 0, c => c
  | n + 1, c => drop n c.next

/-- What follows blanks and comments. A comment begins at a number sign and ends with its line. -/
def passBlanks : (inComment : Bool) → Spot → List Char → List Char × Spot
  | _, spot, [] => ([], spot)
  | inComment, spot, ch :: rest =>
    if inComment then passBlanks (ch ≠ '\n') (spot.past ch) rest
    else if Text.isBlank ch then passBlanks false (spot.past ch) rest
    else if ch = '#' then passBlanks true (spot.past ch) rest
    else (ch :: rest, spot)

theorem passBlanks_length (inComment : Bool) (spot : Spot) (rest : List Char) :
    (passBlanks inComment spot rest).1.length ≤ rest.length := by
  fun_induction passBlanks inComment spot rest <;> simp only [List.length_cons] <;> omega

/-- Passes over blanks and comments where the text is verbose. -/
def skip (c : Cursor) : Cursor :=
  if c.verbose then
    let (rest, spot) := passBlanks false c.spot c.rest
    { c with rest := rest, spot := spot }
  else c

/-- Passes over one character and what may be skipped behind it. -/
def step (c : Cursor) : Cursor := c.next.skip

theorem length_skip (c : Cursor) : c.skip.rest.length ≤ c.rest.length := by
  unfold skip
  split
  · exact passBlanks_length ..
  · exact Nat.le_refl _

theorem length_next {c : Cursor} {ch : Char} {rest : List Char} (h : c.rest = ch :: rest) :
    c.next.rest.length < c.rest.length := by
  unfold next
  rw [h]
  exact Nat.lt_succ_self _

theorem length_step {c : Cursor} {ch : Char} {rest : List Char} (h : c.rest = ch :: rest) :
    c.step.rest.length < c.rest.length :=
  Nat.lt_of_le_of_lt (length_skip c.next) (length_next h)

/-- Takes characters as long as they pass the test, skipping behind each. -/
def takeWhile (test : Char → Bool) (c : Cursor) : List Char × Cursor :=
  match _h : c.rest with
  | [] => ([], c)
  | ch :: _ =>
    if test ch then
      let (taken, after) := takeWhile test c.step
      (ch :: taken, after)
    else ([], c)
termination_by c.rest.length
decreasing_by exact length_step _h

/-- The character behind the next one, blanks left out where the text is verbose. Of a comment only
the number sign is left out. -/
def peek (c : Cursor) : Option Char :=
  let rest := c.rest.tail
  if c.verbose then
    match rest.dropWhile Text.isBlank with
    | '#' :: rest => (rest.dropWhile Text.isBlank).head?
    | rest => rest.head?
  else rest.head?

end Cursor

/-- What has been read, and what is left; or what is wrong. -/
abbrev Reading (α : Type) := Except Misreading (α × Cursor)

end MagicBaud.Log.Pattern

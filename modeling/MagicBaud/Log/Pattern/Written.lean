import MagicBaud.Log.Pattern
import MagicBaud.Log.Pattern.Mistake

namespace MagicBaud.Log.Pattern

inductive Flag where
  | caseless
  | multiLine
  | dotAll
  | swapGreed
  | unicode
  | returnFeed
  | verbose
  deriving DecidableEq

/-- Flags that are set, and flags that are cleared. -/
abbrev Setting := List (Flag × Bool)

/-- A single character. One that is written as two hexadecimal digits can stand for a byte. -/
structure Letter where
  span : Span
  char : Char
  isByte : Bool := false

inductive Assertion where
  | lineStart
  | lineFinish
  | textStart
  | textFinish
  | edge (e : Edge)
  deriving DecidableEq

/-- The classes that have an escape of one letter. -/
inductive ShortClass where
  | digit
  | space
  | word
  deriving DecidableEq

/-- The classes that have a name between colons. -/
inductive NamedClass where
  | alnum
  | alpha
  | ascii
  | blank
  | cntrl
  | digit
  | graph
  | lower
  | print
  | punct
  | space
  | upper
  | word
  | xdigit
  deriving DecidableEq

inductive SetOperation where
  | inter
  | diff
  | either
  deriving DecidableEq

/-- What stands between brackets. -/
inductive ClassSet where
  | nothing (span : Span)
  | letter (l : Letter)
  | range (first last : Letter)
  | named (span : Span) (kind : NamedClass) (negated : Bool)
  | short (span : Span) (kind : ShortClass) (negated : Bool)
  | property (span : Span) (name : String)
  | bracket (span : Span) (negated : Bool) (inner : ClassSet)
  | union (span : Span) (items : List ClassSet)
  | joined (span : Span) (op : SetOperation) (left right : ClassSet)

inductive Written where
  | nothing
  | flags (s : Setting)
  | letter (l : Letter)
  | dot (span : Span)
  | assertion (span : Span) (a : Assertion)
  | short (span : Span) (kind : ShortClass) (negated : Bool)
  | property (span : Span) (name : String)
  | bracket (span : Span) (negated : Bool) (inner : ClassSet)
  | repeated (span : Span) (part : Written) (least : Nat) (most : Option Nat)
  | group (span : Span) (isCaptured : Bool) (setting : Setting) (part : Written)
  | both (span : Span) (parts : List Written)
  | either (span : Span) (parts : List Written)

def ClassSet.span : ClassSet → Span
  | .nothing span | .named span .. | .short span .. | .property span _ | .bracket span .. => span
  | .union span _ | .joined span .. => span
  | .letter l => l.span
  | .range first last => ⟨first.span.start, last.span.finish⟩

/-- Where a part starts; flags and nothing at all count as starting with the text. -/
def Written.start : Written → Spot
  | .nothing | .flags _ => {}
  | .letter l => l.span.start
  | .dot span | .assertion span _ | .short span .. | .property span _ | .bracket span .. =>
    span.start
  | .repeated span .. | .group span .. | .both span _ | .either span _ => span.start

mutual

/-- The first part that is nested deeper than `room` allows. -/
def ClassSet.tooDeep? : ClassSet → (room : Nat) → Option Span
  | .bracket span _ inner, room =>
    match room with
    | 0 => some span
    | room + 1 => inner.tooDeep? room
  | .union span items, room =>
    match room with
    | 0 => some span
    | room + 1 => ClassSet.anyTooDeep? items room
  | .joined span _ left right, room =>
    match room with
    | 0 => some span
    | room + 1 => (left.tooDeep? room).or (right.tooDeep? room)
  | _, _ => none

def ClassSet.anyTooDeep? : List ClassSet → (room : Nat) → Option Span
  | [], _ => none
  | item :: items, room => (item.tooDeep? room).or (ClassSet.anyTooDeep? items room)

end

mutual

/-- The first part that is nested deeper than `room` allows. Groups, repetitions, alternatives and
sequences nest, and so do brackets with what is joined in them. -/
def Written.tooDeep? : Written → (room : Nat) → Option Span
  | .bracket span _ inner, room =>
    match room with
    | 0 => some span
    | room + 1 => inner.tooDeep? room
  | .repeated span part _ _, room =>
    match room with
    | 0 => some span
    | room + 1 => part.tooDeep? room
  | .group span _ _ part, room =>
    match room with
    | 0 => some span
    | room + 1 => part.tooDeep? room
  | .both span parts, room =>
    match room with
    | 0 => some span
    | room + 1 => Written.anyTooDeep? parts room
  | .either span parts, room =>
    match room with
    | 0 => some span
    | room + 1 => Written.anyTooDeep? parts room
  | _, _ => none

def Written.anyTooDeep? : List Written → (room : Nat) → Option Span
  | [], _ => none
  | part :: parts, room => (part.tooDeep? room).or (Written.anyTooDeep? parts room)

end

end MagicBaud.Log.Pattern

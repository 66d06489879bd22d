import MagicBaud.Log.Pattern.Written
import MagicBaud.Log.Pattern.Written.Cursor

namespace MagicBaud.Log.Pattern

/-- A part that holds no other parts. -/
inductive Primitive where
  | letter (l : Letter)
  | dot (span : Span)
  | assertion (span : Span) (a : Assertion)
  | short (span : Span) (kind : ShortClass) (negated : Bool)
  | property (span : Span) (name : String)

namespace Primitive

def span : Primitive → Span
  | .letter l => l.span
  | .dot span | .assertion span _ | .short span .. | .property span _ => span

def written : Primitive → Written
  | .letter l => .letter l
  | .dot span => .dot span
  | .assertion span a => .assertion span a
  | .short span kind negated => .short span kind negated
  | .property span name => .property span name

/-- The part as an item of a class. -/
def item : Primitive → Except Misreading ClassSet
  | .letter l => .ok (.letter l)
  | .short span kind negated => .ok (.short span kind negated)
  | .property span name => .ok (.property span name)
  | p => mistaken .escapeInClass p.span

/-- The part as an end of a range. -/
def bound : Primitive → Except Misreading Letter
  | .letter l => .ok l
  | p => mistaken .rangeOfClasses p.span

end Primitive

def isHexDigit (c : Char) : Bool :=
  ('0' ≤ c && c ≤ '9') || ('a' ≤ c && c ≤ 'f') || ('A' ≤ c && c ≤ 'F')

def hexDigit (c : Char) : Nat :=
  if c ≤ '9' then c.toNat - '0'.toNat else c.toLower.toNat - 'a'.toNat + 10

/-- The character with the code point that the digits give. -/
def charOfHex? (digits : List Char) : Option Char :=
  let n := digits.foldl (fun n d => n * 16 + hexDigit d) 0
  if n.isValidChar then some (Char.ofNat n) else none

/-- Reads exactly so many hexadecimal digits. -/
def readHexDigits : Nat → Cursor → Reading (List Char)
  | 0, c => .ok ([], c)
  | n + 1, c =>
    match c.rest with
    | [] => mistaken .endInEscape c.here
    | d :: _ =>
      if isHexDigit d then (readHexDigits n c.step).map fun (ds, c) => (d :: ds, c)
      else mistaken .badCodeDigit c.charSpan

/-- Reads a code point of a fixed number of digits. -/
def readFixedCode (start : Spot) (count : Nat) (c : Cursor) : Reading Letter :=
  (readHexDigits count c).bind fun (digits, after) =>
    match charOfHex? digits with
    | some ch => .ok (⟨⟨start, after.spot⟩, ch, count == 2⟩, after)
    | none => mistaken .noCharacter ⟨c.spot, after.spot⟩

/-- Reads a code point between braces. -/
def readBracedCode (start : Spot) (c : Cursor) : Reading Letter :=
  let (digits, close) := c.step.takeWhile isHexDigit
  if close.isAtEnd then mistaken .endInEscape ⟨c.spot, close.spot⟩
  else if !close.startsWith "\x7d" then mistaken .badCodeDigit close.charSpan
  else
    let after := close.step
    if digits.isEmpty then mistaken .emptyCode ⟨c.spot, after.spot⟩
    else
      match charOfHex? digits with
      | some ch => .ok (⟨⟨start, after.spot⟩, ch, false⟩, after)
      | none => mistaken .noCharacter ⟨c.next.spot, close.spot⟩

/-- Reads a code point from the letter that tells how many digits it has. -/
def readCode (start : Spot) (count : Nat) (c : Cursor) : Reading Letter :=
  let c := c.step
  if c.isAtEnd then mistaken .endInEscape c.here
  else if c.startsWith "\x7b" then readBracedCode start c
  else readFixedCode start count c

/-- Reads the name of a property, of one letter or between braces. -/
def readProperty (start : Spot) (c : Cursor) : Reading Primitive :=
  let c := c.step
  match c.rest with
  | [] => mistaken .endInEscape c.here
  | ch :: _ =>
    if ch = '\x7b' then
      let (name, close) := c.step.takeWhile (· ≠ '\x7d')
      if close.isAtEnd then mistaken .endInEscape close.here
      else .ok (.property ⟨start, close.next.spot⟩ (String.ofList name), close.next)
    else if ch = '\\' then mistaken .badProperty c.charSpan
    else .ok (.property ⟨start, c.step.spot⟩ (String.singleton ch), c.step)

def isEdgeChar (c : Char) : Bool :=
  ('A' ≤ c && c ≤ 'Z') || ('a' ≤ c && c ≤ 'z') || c = '-'

def edgeOfName? (name : String) : Option Edge :=
  match name with
  | "start" => some .start
  | "end" => some .finish
  | "start-half" => some .startHalf
  | "end-half" => some .finishHalf
  | _ => none

/-- Reads the name between braces behind an edge of words. Braces with anything else in them count a
repetition, and are left alone. -/
def readEdge (start : Spot) (c : Cursor) : Reading Edge :=
  if !c.startsWith "\x7b" then .ok (.either, c)
  else
    let first := c.step
    match first.rest with
    | [] => mistaken .endInEdge ⟨start, first.spot⟩
    | ch :: _ =>
      if !isEdgeChar ch then .ok (.either, c)
      else
        let (name, close) := first.takeWhile isEdgeChar
        if !close.startsWith "\x7d" then mistaken .unclosedEdge ⟨c.spot, close.spot⟩
        else
          match edgeOfName? (String.ofList name) with
          | some e => .ok (e, close.next)
          | none => mistaken .unknownEdge ⟨first.spot, close.spot⟩

/-- The control character that an escaped letter stands for. -/
def controlOf? (c : Char) : Option Char :=
  if c = 'a' then some '\x07'
  else if c = 'f' then some '\x0c'
  else if c = 't' then some '\t'
  else if c = 'n' then some '\n'
  else if c = 'r' then some '\r'
  else if c = 'v' then some '\x0b'
  else none

/-- Punctuation and controls of ASCII stand for themselves, but for the two angle brackets. -/
def standsForItself (c : Char) : Bool :=
  c.toNat < 0x80 && !c.isAlphanum && c ≠ '<' && c ≠ '>'

def assertionOf? (c : Char) : Option Assertion :=
  if c = 'A' then some .textStart
  else if c = 'z' then some .textFinish
  else if c = 'B' then some (.edge .neither)
  else if c = '<' then some (.edge .start)
  else if c = '>' then some (.edge .finish)
  else none

/-- The class that an escaped letter stands for, and whether it is negated. -/
def shortOf? (c : Char) : Option (ShortClass × Bool) :=
  if c = 'd' then some (.digit, false)
  else if c = 'D' then some (.digit, true)
  else if c = 's' then some (.space, false)
  else if c = 'S' then some (.space, true)
  else if c = 'w' then some (.word, false)
  else if c = 'W' then some (.word, true)
  else none

/-- Reads what a backslash and the character behind it mean without looking further. -/
def readSimpleEscape (start : Spot) (ch : Char) (c : Cursor) : Reading Primitive :=
  let after := c.next
  let span : Span := ⟨start, after.spot⟩
  match shortOf? ch, assertionOf? ch, controlOf? ch with
  | some (kind, negated), _, _ => .ok (.short span kind negated, after)
  | none, some a, _ => .ok (.assertion span a, after)
  | none, none, some d => .ok (.letter ⟨span, d, false⟩, after)
  | none, none, none =>
    if standsForItself ch then .ok (.letter ⟨span, ch, false⟩, after)
    else mistaken .unknownEscape span

/-- Reads from a backslash on. -/
def readEscape (c : Cursor) : Reading Primitive :=
  let start := c.spot
  let c := c.next
  match c.rest with
  | [] => mistaken .endInEscape ⟨start, c.spot⟩
  | ch :: _ =>
    if ch.isDigit then mistaken .backreference ⟨start, c.next.spot⟩
    else if ch = 'x' then (readCode start 2 c).map fun (l, c) => (.letter l, c)
    else if ch = 'u' then (readCode start 4 c).map fun (l, c) => (.letter l, c)
    else if ch = 'U' then (readCode start 8 c).map fun (l, c) => (.letter l, c)
    else if ch = 'p' || ch = 'P' then readProperty start c
    else if ch = 'b' then
      (readEdge start c.next).map fun (e, c) => (.assertion ⟨start, c.spot⟩ (.edge e), c)
    else readSimpleEscape start ch c

/-- Reads a character that stands for itself. -/
def readLetter (c : Cursor) : Reading Primitive :=
  match c.rest with
  | [] => .ok (.letter ⟨c.here, ' ', false⟩, c)
  | ch :: _ => .ok (.letter ⟨c.charSpan, ch, false⟩, c.next)

/-- Reads a part outside classes that begins with no operator. -/
def readPrimitive (c : Cursor) : Reading Primitive :=
  if c.startsWith "\\" then readEscape c
  else if c.startsWith "." then .ok (.dot c.charSpan, c.next)
  else if c.startsWith "^" then .ok (.assertion c.charSpan .lineStart, c.next)
  else if c.startsWith "$" then .ok (.assertion c.charSpan .lineFinish, c.next)
  else readLetter c

end MagicBaud.Log.Pattern

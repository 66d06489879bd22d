import MagicBaud.Log.Pattern.Written.Escape

namespace MagicBaud.Log.Pattern

def NamedClass.ofName? (name : String) : Option NamedClass :=
  match name with
  | "alnum" => some .alnum
  | "alpha" => some .alpha
  | "ascii" => some .ascii
  | "blank" => some .blank
  | "cntrl" => some .cntrl
  | "digit" => some .digit
  | "graph" => some .graph
  | "lower" => some .lower
  | "print" => some .print
  | "punct" => some .punct
  | "space" => some .space
  | "upper" => some .upper
  | "word" => some .word
  | "xdigit" => some .xdigit
  | _ => none

/-- Items that stand side by side, the last first, and where they stand. -/
structure Items where
  span : Span
  items : List ClassSet := []

namespace Items

def add (u : Items) (item : ClassSet) : Items :=
  let start := if u.items.isEmpty then item.span.start else u.span.start
  ⟨⟨start, item.span.finish⟩, item :: u.items⟩

def set (u : Items) : ClassSet :=
  match u.items with
  | [] => .nothing u.span
  | [item] => item
  | items => .union u.span items.reverse

end Items

/-- What is still open around the items that are being read. -/
inductive Enclosure where
  | bracket (before : Items) (span : Span) (negated : Bool)
  | operand (op : SetOperation) (left : ClassSet)

/-- Where the innermost bracket is open. -/
def openSpan : List Enclosure → Span
  | .bracket _ span _ :: _ => span
  | .operand .. :: around => openSpan around
  | [] => .empty {}

/-- Completes an operation with its second operand. -/
def completed (right : ClassSet) : List Enclosure → ClassSet × List Enclosure
  | .operand op left :: around =>
    (.joined ⟨left.span.start, right.span.finish⟩ op left right, around)
  | around => (right, around)

/-- Reads a named class, or takes nothing if there is none. -/
def readNamed? (c : Cursor) : Option (ClassSet × Cursor) :=
  if !c.startsWith "[:" then none
  else
    let body := c.drop 2
    let negated := body.startsWith "^"
    let first := if negated then body.next else body
    let name := first.rest.takeWhile (· ≠ ':')
    let close := first.drop name.length
    if !close.startsWith ":]" then none
    else
      let after := close.drop 2
      (NamedClass.ofName? (String.ofList name)).map fun kind =>
        (.named ⟨c.spot, after.spot⟩ kind negated, after)

/-- Reads one end of a range. -/
def readBound (c : Cursor) : Reading Primitive :=
  if c.startsWith "\\" then readEscape c else readLetter c

/-- Reads a single item or a range. A hyphen before a closing bracket or before another hyphen makes
no range. -/
def readRange (around : List Enclosure) (c : Cursor) : Reading ClassSet :=
  let unclosed : Reading ClassSet := mistaken .unclosedClass (openSpan around)
  (readBound c).bind fun (first, c) =>
    let c := c.skip
    if c.isAtEnd then unclosed
    else if !c.startsWith "-" || c.peek = some ']' || c.peek = some '-' then
      first.item.map (·, c)
    else
      let c := c.step
      if c.isAtEnd then unclosed
      else
        (readBound c).bind fun (last, c) =>
          first.bound.bind fun low =>
            last.bound.bind fun high =>
              if low.char ≤ high.char then .ok (.range low high, c)
              else mistaken .reversedRange ⟨low.span.start, high.span.finish⟩

/-- Takes the hyphens at the front of a bracket, each for itself. -/
def readHyphens (start : Spot) : Nat → Items → Cursor → Reading Items
  | 0, u, c => .ok (u, c)
  | fuel + 1, u, c =>
    if !c.startsWith "-" then .ok (u, c)
    else if c.step.isAtEnd then mistaken .unclosedClass (.empty start)
    else readHyphens start fuel (u.add (.letter ⟨c.charSpan, '-', false⟩)) c.step

/-- What a bracket begins with: whether it is negated, and the hyphens or the closing bracket that
stand for themselves at its front. -/
structure Front where
  span : Span
  negated : Bool
  items : Items

def readFront (c : Cursor) : Reading Front :=
  let start := c.spot
  let unclosed (c : Cursor) : Reading Front := mistaken .unclosedClass ⟨start, c.spot⟩
  let c := c.step
  if c.isAtEnd then unclosed c
  else
    let negated := c.startsWith "^"
    let c := if negated then c.step else c
    if c.isAtEnd then unclosed c
    else
      (readHyphens start c.rest.length { span := c.here } c).bind fun (u, c) =>
        if u.items.isEmpty && c.startsWith "]" then
          let u := u.add (.letter ⟨c.charSpan, ']', false⟩)
          let c := c.step
          if c.isAtEnd then unclosed c else .ok (⟨⟨start, c.spot⟩, negated, u⟩, c)
        else .ok (⟨⟨start, c.spot⟩, negated, u⟩, c)

def operationAt? (c : Cursor) : Option SetOperation :=
  if c.startsWith "&&" then some .inter
  else if c.startsWith "--" then some .diff
  else if c.startsWith "~~" then some .either
  else none

/-- A class in brackets. -/
structure Bracket where
  span : Span
  negated : Bool
  inner : ClassSet

/-- Reads on in the brackets around the items; `fuel` bounds the number of parts. -/
def readItems : Nat → List Enclosure → Items → Cursor → Reading Bracket
  | 0, around, _, _ => mistaken .unclosedClass (openSpan around)
  | fuel + 1, around, u, c =>
    let c := c.skip
    if c.isAtEnd then mistaken .unclosedClass (openSpan around)
    else if c.startsWith "[" then
      match readNamed? c with
      | some (named, c) => readItems fuel around (u.add named) c
      | none =>
        (readFront c).bind fun (f, c) =>
          readItems fuel (.bracket u f.span f.negated :: around) f.items c
    else if c.startsWith "]" then
      match completed u.set around with
      | (inner, .bracket before span negated :: outer) =>
        let c := c.next
        let span : Span := ⟨span.start, c.spot⟩
        if outer.isEmpty then .ok (⟨span, negated, inner⟩, c)
        else readItems fuel outer (before.add (.bracket span negated inner)) c
      | (inner, _) => .ok (⟨inner.span, false, inner⟩, c)
    else
      match operationAt? c with
      | some op =>
        let (left, around) := completed u.set around
        let c := c.drop 2
        readItems fuel (.operand op left :: around) { span := c.here } c
      | none => (readRange around c).bind fun (item, c) => readItems fuel around (u.add item) c

/-- Reads from an opening bracket to the one that closes it. -/
def readBracket (c : Cursor) : Reading Bracket :=
  (readFront c).bind fun (f, after) =>
    let outermost : Enclosure := .bracket { span := c.here } f.span f.negated
    readItems (after.rest.length + 1) [outermost] f.items after

end MagicBaud.Log.Pattern

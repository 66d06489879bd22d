import MagicBaud.Log.Pattern.Written
import MagicBaud.Log.Pattern.Written.Cursor
import MagicBaud.Text.Letter

namespace MagicBaud.Log.Pattern

/-- Names that groups have, and where they stand. -/
abbrev Names := List (String × Span)

inductive Opening where
  | flags (s : Setting)
  | group (isCaptured : Bool) (s : Setting)

def Flag.ofLetter? (c : Char) : Option Flag :=
  if c = 'i' then some .caseless
  else if c = 'm' then some .multiLine
  else if c = 's' then some .dotAll
  else if c = 'U' then some .swapGreed
  else if c = 'u' then some .unicode
  else if c = 'R' then some .returnFeed
  else if c = 'x' then some .verbose
  else none

def Setting.get? (s : Setting) (f : Flag) : Option Bool := s.lookup f

/-- Flags as far as they have been read: where each stands, where the hyphen before the cleared ones
stands, and where one stands that nothing has followed. -/
structure FlagsRead where
  setting : Setting := []
  spans : List (Flag × Span) := []
  negation : Option Span := none
  dangling : Option Span := none

def FlagsRead.addNegation (r : FlagsRead) (span : Span) : Except Misreading FlagsRead :=
  match r.negation with
  | some earlier => .error ⟨.repeatedNegation, span, some earlier⟩
  | none => .ok { r with negation := some span, dangling := some span }

def FlagsRead.addFlag (r : FlagsRead) (f : Flag) (span : Span) : Except Misreading FlagsRead :=
  match r.spans.lookup f with
  | some earlier => .error ⟨.repeatedFlag, span, some earlier⟩
  | none =>
    .ok { r with
      setting := r.setting ++ [(f, r.negation.isNone)], spans := (f, span) :: r.spans,
      dangling := none }

/-- Reads flags up to the colon or the parenthesis that ends them. -/
def readFlags (r : FlagsRead) (c : Cursor) : Reading Setting :=
  match _h : c.rest with
  | [] => mistaken .endInFlags c.here
  | ch :: _ =>
    if ch = ':' || ch = ')' then
      match r.dangling with
      | some span => mistaken .danglingNegation span
      | none => .ok (r.setting, c)
    else
      let r' := if ch = '-' then r.addNegation c.charSpan
        else match Flag.ofLetter? ch with
          | some f => r.addFlag f c.charSpan
          | none => mistaken .unknownFlag c.charSpan
      match r' with
      | .ok r => readFlags r c.next
      | .error m => .error m
termination_by c.rest.length
decreasing_by exact Cursor.length_next _h

def beginsName (c : Char) : Bool := c = '_' || Text.isLetter c

def continuesName (c : Char) : Bool :=
  beginsName c || c = '.' || c = '[' || c = ']' || Text.isNumeral c

/-- Reads the name of a group, which no other group may have, up to the angle bracket behind it. -/
def readName (names : Names) (c : Cursor) : Reading Names :=
  let (name, close) := { c with verbose := false }.takeWhile continuesName
  let span : Span := ⟨c.spot, close.spot⟩
  if c.rest.head?.any fun ch => ch ≠ '>' && !beginsName ch then mistaken .badName c.charSpan
  else if close.isAtEnd then mistaken .unclosedName close.here
  else if !close.startsWith ">" then mistaken .badName close.charSpan
  else if name.isEmpty then mistaken .emptyName c.here
  else
    match names.lookup (String.ofList name) with
    | some earlier => .error ⟨.repeatedName, span, some earlier⟩
    | none =>
      .ok ((String.ofList name, span) :: names, { close.next with verbose := c.verbose })

/-- The marks of groups that would look around without taking anything. -/
def lookAroundMarks : List String := ["?=", "?!", "?<=", "?<!"]

def readOpening (names : Names) (c : Cursor) : Reading (Opening × Names) :=
  let span := c.charSpan
  let c := c.step
  let named (c : Cursor) : Reading (Opening × Names) :=
    (readName names c).map fun (names, c) => ((.group true [], names), c)
  match lookAroundMarks.find? c.startsWith with
  | some mark => mistaken .lookAround ⟨span.start, (c.drop mark.length).spot⟩
  | none =>
    if c.startsWith "?P<" then named (c.drop 3)
    else if c.startsWith "?<" then named (c.drop 2)
    else if !c.startsWith "?" then .ok ((.group true [], names), c)
    else if c.next.isAtEnd then mistaken .unclosedGroup span
    else
      (readFlags {} c.next).bind fun (setting, close) =>
        if close.startsWith ":" then .ok ((.group false setting, names), close.next)
        else if setting.isEmpty then mistaken .nothingToRepeat c.here
        else .ok ((.flags setting, names), close.next)

end MagicBaud.Log.Pattern

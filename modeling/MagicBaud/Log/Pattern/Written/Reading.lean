import MagicBaud.Log.Pattern.Written.Bracket
import MagicBaud.Log.Pattern.Written.Count
import MagicBaud.Log.Pattern.Written.Opening

namespace MagicBaud.Log.Pattern

/-- What has been read within one group: the alternatives before the present one with the spot at
which the first begins, and the parts of the present one, each with the last first. -/
structure Level where
  start : Spot := {}
  parts : List Written := []
  alternatives : Option (Spot × List Written) := none

namespace Level

def add (l : Level) (part : Written) : Level := { l with parts := part :: l.parts }

/-- The parts of the present alternative as one. -/
def current (l : Level) (finish : Spot) : Written :=
  match l.parts with
  | [] => .nothing
  | [part] => part
  | parts => .both ⟨l.start, finish⟩ parts.reverse

/-- All that has been read, as one part. -/
def whole (l : Level) (finish : Spot) : Written :=
  match l.alternatives with
  | none => l.current finish
  | some (start, alternatives) =>
    .either ⟨start, finish⟩ (l.current finish :: alternatives).reverse

/-- Begins another alternative behind a bar. -/
def alternate (l : Level) (finish next : Spot) : Level :=
  let (start, before) := l.alternatives.getD (l.start, [])
  { start := next, alternatives := some (start, l.current finish :: before) }

/-- The part that a repetition at the cursor is about, and the level without it. -/
def repeatable (l : Level) (c : Cursor) : Except Misreading (Written × Level) :=
  match l.parts with
  | [] | .flags _ :: _ => mistaken .nothingToRepeat c.here
  | part :: parts => .ok (part, { l with parts := parts })

end Level

/-- A group that is open, the level that it stands in, and whether that is verbose. -/
structure OpenGroup where
  outside : Level
  verbose : Bool
  span : Span
  isCaptured : Bool
  setting : Setting

def OpenGroup.closed (g : OpenGroup) (inside : Written) (finish : Spot) : Level :=
  g.outside.add (.group ⟨g.span.start, finish⟩ g.isCaptured g.setting inside)

/-- Reads on in the innermost of the open groups; `fuel` bounds the number of parts. -/
def readFrom : (fuel : Nat) → List OpenGroup → Level → Names → Cursor → Except Misreading Written
  | 0, _, level, _, c => .ok (level.whole c.spot)
  | fuel + 1, groups, level, names, c =>
    let c := c.skip
    match c.rest with
    | [] =>
      match groups with
      | [] => .ok (level.whole c.spot)
      | g :: _ => mistaken .unclosedGroup g.span
    | ch :: _ =>
      if ch = '(' then
        (readOpening names c).bind fun ((opening, names), after) =>
          match opening with
          | .flags s =>
            let verbose := (s.get? .verbose).getD c.verbose
            readFrom fuel groups (level.add (.flags s)) names { after with verbose := verbose }
          | .group isCaptured s =>
            let verbose := (s.get? .verbose).getD c.verbose
            let g : OpenGroup := ⟨level, c.verbose, c.charSpan, isCaptured, s⟩
            readFrom fuel (g :: groups) { start := after.spot } names
              { after with verbose := verbose }
      else if ch = ')' then
        match groups with
        | [] => mistaken .unopenedGroup c.charSpan
        | g :: groups =>
          let after := { c.next with verbose := g.verbose }
          readFrom fuel groups (g.closed (level.whole c.spot) after.spot) names after
      else if ch = '|' then
        readFrom fuel groups (level.alternate c.spot c.next.spot) names c.next
      else if ch = '[' then
        (readBracket c).bind fun (b, c) =>
          readFrom fuel groups (level.add (.bracket b.span b.negated b.inner)) names c
      else if ch = '\x7b' then
        (level.repeatable c).bind fun (part, level) =>
          (readCount c).bind fun (count, c) =>
            let span : Span := ⟨part.start, c.spot⟩
            readFrom fuel groups (level.add (.repeated span part count.least count.most)) names c
      else
        match countOfSign? ch with
        | some count =>
          (level.repeatable c).bind fun (part, level) =>
            let c := passSign c
            let span : Span := ⟨part.start, c.spot⟩
            readFrom fuel groups (level.add (.repeated span part count.least count.most)) names c
        | none =>
          (readPrimitive c).bind fun (p, c) => readFrom fuel groups (level.add p.written) names c

/-- Reads the text of a pattern. How deep its parts are nested is told last. -/
def Written.ofText (text : String) : Except Misreading Written :=
  (readFrom (text.length + 1) [] {} [] { rest := text.toList }).bind fun w =>
    match w.tooDeep? deepest with
    | some span => mistaken .tooDeep span
    | none => .ok w

end MagicBaud.Log.Pattern

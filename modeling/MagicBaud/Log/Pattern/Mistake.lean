import MagicBaud.Text.Decimal
import MagicBaud.Text.Split

namespace MagicBaud.Log.Pattern

/-- The greatest depth to which the parts of a pattern may be nested. -/
def deepest : Nat := 250

inductive Mistake where
  | unclosedGroup
  | unopenedGroup
  | unclosedName
  | emptyName
  | badName
  | repeatedName
  | endInFlags
  | unknownFlag
  | repeatedFlag
  | repeatedNegation
  | danglingNegation
  | lookAround
  | backreference
  | unclosedClass
  | escapeInClass
  | rangeOfClasses
  | reversedRange
  | nothingToRepeat
  | unclosedCount
  | noCount
  | largeCount
  | reversedCount
  | endInEscape
  | unknownEscape
  | emptyCode
  | badCodeDigit
  | noCharacter
  | badProperty
  | endInEdge
  | unclosedEdge
  | unknownEdge
  | tooDeep
  | notText
  | beyondBytes
  | noSuchProperty
  | noSuchPropertyValue
  | noUnicodeClass
  | noUnicodeCase
  deriving DecidableEq

def Mistake.message : Mistake → String
  | .unclosedGroup => "unclosed group"
  | .unopenedGroup => "unopened group"
  | .unclosedName => "unclosed capture group name"
  | .emptyName => "empty capture group name"
  | .badName => "invalid capture group character"
  | .repeatedName => "duplicate capture group name"
  | .endInFlags => "expected flag but got end of regex"
  | .unknownFlag => "unrecognized flag"
  | .repeatedFlag => "duplicate flag"
  | .repeatedNegation => "flag negation operator repeated"
  | .danglingNegation => "dangling flag negation operator"
  | .lookAround => "look-around, including look-ahead and look-behind, is not supported"
  | .backreference => "backreferences are not supported"
  | .unclosedClass => "unclosed character class"
  | .escapeInClass => "invalid escape sequence found in character class"
  | .rangeOfClasses => "invalid range boundary, must be a literal"
  | .reversedRange => "invalid character class range, the start must be <= the end"
  | .nothingToRepeat => "repetition operator missing expression"
  | .unclosedCount => "unclosed counted repetition"
  | .noCount => "repetition quantifier expects a valid decimal"
  | .largeCount => "decimal literal invalid"
  | .reversedCount => "invalid repetition count range, the start must be <= the end"
  | .endInEscape => "incomplete escape sequence, reached end of pattern prematurely"
  | .unknownEscape => "unrecognized escape sequence"
  | .emptyCode => "hexadecimal literal empty"
  | .badCodeDigit => "invalid hexadecimal digit"
  | .noCharacter => "hexadecimal literal is not a Unicode scalar value"
  | .badProperty => "invalid Unicode character class"
  | .endInEdge =>
    "found either the beginning of a special word boundary or a bounded repetition on a \\b "
      ++ "with an opening brace, but no closing brace"
  | .unclosedEdge =>
    "special word boundary assertion is either unclosed or contains an invalid character"
  | .unknownEdge =>
    "unrecognized special word boundary assertion, valid choices are: "
      ++ "start, end, start-half or end-half"
  | .tooDeep =>
    "exceed the maximum number of nested parentheses/brackets ("
      ++ String.ofList (Text.Decimal.write deepest) ++ ")"
  | .notText => "pattern can match invalid UTF-8"
  | .beyondBytes => "Unicode not allowed here"
  | .noSuchProperty => "Unicode property not found"
  | .noSuchPropertyValue => "Unicode property value not found"
  | .noUnicodeClass =>
    "Unicode-aware Perl class not found (make sure the unicode-perl feature is enabled)"
  | .noUnicodeCase =>
    "Unicode-aware case insensitivity matching is not available "
      ++ "(make sure the unicode-case feature is enabled)"

/-- A spot between two characters of a text, its line and its column, both counted from one. -/
structure Spot where
  line : Nat := 1
  column : Nat := 1
  deriving DecidableEq, Repr

namespace Spot

/-- The spot behind a character. -/
def past (s : Spot) (c : Char) : Spot :=
  if c = '\n' then ⟨s.line + 1, 1⟩ else ⟨s.line, s.column + 1⟩

def le (s t : Spot) : Bool := s.line < t.line || (s.line == t.line && s.column ≤ t.column)

end Spot

structure Span where
  start : Spot
  finish : Spot
  deriving DecidableEq, Repr

namespace Span

def empty (s : Spot) : Span := ⟨s, s⟩

def isWithinLine (s : Span) : Bool := s.start.line == s.finish.line

/-- By where they start, then by where they end. -/
def le (s t : Span) : Bool := if s.start = t.start then s.finish.le t.finish else s.start.le t.start

end Span

/-- A mistake, the part of the text that it is about, and perhaps an earlier part that it is at odds
with. -/
structure Misreading where
  mistake : Mistake
  span : Span
  earlier : Option Span := none
  deriving DecidableEq

def mistaken {α : Type} (mistake : Mistake) (span : Span) : Except Misreading α :=
  .error ⟨mistake, span, none⟩

namespace Misreading

/-- A caret under each character of the spans on one line, and at least one for each span. `column`
is the one reached so far. -/
def carets (column : Nat) : List Span → List Char
  | [] => []
  | s :: spans =>
    let width := max 1 (s.finish.column - s.start.column)
    List.replicate (s.start.column - column) ' ' ++ List.replicate width '^'
      ++ carets (max column s.start.column + width) spans

/-- The lines of the text, each behind its lead and with the spans on it marked. -/
def marked (lead : Nat → List Char) (spans : List Span) (lines : List String) : List String :=
  lines.zipIdx.flatMap fun (line, i) =>
    let here := spans.filter (·.start.line == i + 1)
    let margin := List.replicate (lead i).length ' '
    (String.ofList (lead i) ++ line) ::
      (if here.isEmpty then [] else [String.ofList (margin ++ carets 1 here)])

/-- Where a span over several lines begins and ends. -/
def across (s : Span) : String :=
  let number (n : Nat) := String.ofList (Text.Decimal.write n)
  "on line " ++ number s.start.line ++ " (column " ++ number s.start.column ++ ") through line "
    ++ number s.finish.line ++ " (column " ++ number (s.finish.column - 1) ++ ")"

/-- The number of a line, set off to the right in as many columns as the last number takes. -/
def numbered (lineCount : Nat) (i : Nat) : List Char :=
  let number := Text.Decimal.write (i + 1)
  let width := (Text.Decimal.write lineCount).length
  List.replicate (width - number.length) ' ' ++ number ++ [':', ' ']

/-- The text of the pattern with the place of the mistake marked below it. A text of several lines
is numbered and set off. -/
def message (text : String) (m : Misreading) : String :=
  let spans := (m.span :: m.earlier.toList).mergeSort Span.le
  let (inside, beyond) := spans.partition Span.isWithinLine
  let lines := Text.endedLines text
  let heading := "regex parse error:"
  let told := "error: " ++ m.mistake.message
  "\n".intercalate <|
    if text.toList.contains '\n' then
      let rule := String.ofList (List.replicate 79 '~')
      let lineCount := (text.toList.filter (· = '\n')).length + 1
      [heading, rule] ++ marked (numbered lineCount) inside lines ++ [rule]
        ++ beyond.map across ++ [told]
    else
      [heading] ++ marked (fun _ => List.replicate 4 ' ') inside lines ++ [told]

end Misreading
end MagicBaud.Log.Pattern

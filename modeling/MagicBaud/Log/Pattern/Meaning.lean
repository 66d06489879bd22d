import MagicBaud.Log.Pattern.Simple
import MagicBaud.Log.Pattern.Written

namespace MagicBaud.Log.Pattern

/-- The flags that bear on the meaning. -/
structure Mode where
  caseless : Bool := false
  multiLine : Bool := false
  dotAll : Bool := false
  unicode : Bool := true
  returnFeed : Bool := false
  deriving DecidableEq

namespace Mode

def set (m : Mode) (f : Flag) (value : Bool) : Mode :=
  match f with
  | .caseless => { m with caseless := value }
  | .multiLine => { m with multiLine := value }
  | .dotAll => { m with dotAll := value }
  | .unicode => { m with unicode := value }
  | .returnFeed => { m with returnFeed := value }
  | .swapGreed | .verbose => m

def apply (m : Mode) (s : Setting) : Mode := s.foldl (fun m (f, value) => m.set f value) m

end Mode

def NamedClass.chars : NamedClass → Text.CharSet
  | .alnum => .ofRanges [('0', '9'), ('A', 'Z'), ('a', 'z')]
  | .alpha => .ofRanges [('A', 'Z'), ('a', 'z')]
  | .ascii => .range '\x00' '\x7f'
  | .blank => .ofRanges [('\t', '\t'), (' ', ' ')]
  | .cntrl => .ofRanges [('\x00', '\x1f'), ('\x7f', '\x7f')]
  | .digit => .range '0' '9'
  | .graph => .range '!' '~'
  | .lower => .range 'a' 'z'
  | .print => .range ' ' '~'
  | .punct => .ofRanges [('!', '/'), (':', '@'), ('[', '`'), ('\x7b', '~')]
  | .space => .ofRanges [('\t', '\r'), (' ', ' ')]
  | .upper => .range 'A' 'Z'
  | .word => .ofRanges [('0', '9'), ('A', 'Z'), ('_', '_'), ('a', 'z')]
  | .xdigit => .ofRanges [('0', '9'), ('A', 'F'), ('a', 'f')]

def ShortClass.named : ShortClass → NamedClass
  | .digit => .digit
  | .space => .space
  | .word => .word

/-- The name of a property in small letters, without blanks, hyphens and underscores and without
the word that may stand before it. -/
def plainName (name : String) : String :=
  let chars := name.toList
  let chars := if (chars.take 2).map Char.toLower = ['i', 's'] then chars.drop 2 else chars
  let kept := chars.filter fun c => c.toNat < 0x80 && c ≠ ' ' && c ≠ '_' && c ≠ '-'
  String.ofList (kept.map Char.toLower)

/-- Some names are those of values of a property, and not of a property. -/
def missingProperty (name : String) : Mistake :=
  if ["cf", "sc", "lc"].contains (plainName name) then .noSuchPropertyValue else .noSuchProperty

/-- The set, complemented where that is asked for. Without Unicode a complement has bytes that are
no text. -/
def negatedIf (m : Mode) (negated : Bool) (span : Span) (s : Text.CharSet) :
    Except Misreading Text.CharSet :=
  if !negated then .ok s
  else if m.unicode then .ok s.complement
  else mistaken .notText span

def ShortClass.meaning (m : Mode) (span : Span) (kind : ShortClass) (negated : Bool) :
    Except Misreading Text.CharSet :=
  if m.unicode then mistaken .noUnicodeClass span
  else negatedIf m negated span kind.named.chars

def NamedClass.meaning (m : Mode) (span : Span) (kind : NamedClass) (negated : Bool) :
    Except Misreading Text.CharSet :=
  if m.caseless && m.unicode then mistaken .noUnicodeCase span
  else negatedIf m negated span (if m.caseless then kind.chars.caseless else kind.chars)

/-- A property has no meaning with Unicode, for want of its table, nor without. -/
def propertyMeaning (m : Mode) (span : Span) (name : String) : Except Misreading Text.CharSet :=
  mistaken (if m.unicode then missingProperty name else .beyondBytes) span

/-- Without Unicode a letter may be written as a byte, but only as one of ASCII. -/
def Letter.check (m : Mode) (l : Letter) : Except Misreading Unit :=
  if !m.unicode && l.isByte && l.char.toNat ≥ 0x80 then mistaken .notText l.span else .ok ()

/-- The letter within a class. Without Unicode a class is one of bytes. -/
def Letter.inClass (m : Mode) (l : Letter) : Except Misreading Char :=
  (l.check m).bind fun _ =>
    if m.unicode || l.char.toNat < 0x80 then .ok l.char else mistaken .beyondBytes l.span

/-- The letter outside of classes. -/
def Letter.meaning (m : Mode) (l : Letter) : Except Misreading Pattern :=
  (l.check m).bind fun _ =>
    let chars := Text.CharSet.single l.char
    if !m.caseless then .ok (.one chars)
    else if m.unicode then mistaken .noUnicodeCase l.span
    else .ok (.one chars.caseless)

/-- Letters stand here outside of brackets within. -/
def ClassSet.holdsLetters : ClassSet → Bool
  | .letter _ | .range .. => true
  | .union _ items =>
    items.any fun
      | .letter _ | .range .. => true
      | _ => false
  | _ => false

/-- The set without regard to case where that is asked for. What has no letters of its own needs no
table for it. -/
def ClassSet.folded (m : Mode) (c : ClassSet) (span : Span) (s : Text.CharSet) :
    Except Misreading Text.CharSet :=
  if !m.caseless then .ok s
  else if !m.unicode then .ok s.caseless
  else if c.holdsLetters then mistaken .noUnicodeCase span
  else .ok s

def SetOperation.apply : SetOperation → Text.CharSet → Text.CharSet → Text.CharSet
  | .inter, s, t => s.inter t
  | .diff, s, t => s.diff t
  | .either, s, t => s.either t

mutual

/-- The characters of a class. -/
def ClassSet.meaning (m : Mode) : ClassSet → Except Misreading Text.CharSet
  | .nothing _ => .ok .empty
  | .letter l => (l.inClass m).map .single
  | .range first last =>
    (first.inClass m).bind fun low => (last.inClass m).map fun high => .range low high
  | .named span kind negated => kind.meaning m span negated
  | .short span kind negated => kind.meaning m span negated
  | .property span name => propertyMeaning m span name
  | .bracket span negated inner =>
    (inner.meaning m).bind fun s =>
      (inner.folded m span s).bind fun s => negatedIf m negated span s
  | .union _ items => ClassSet.unionOf m .empty items
  | .joined _ op left right =>
    (left.meaning m).bind fun s =>
      (right.meaning m).bind fun t =>
        (right.folded m right.span t).bind fun t =>
          (left.folded m left.span s).map fun s => op.apply s t

def ClassSet.unionOf (m : Mode) (sum : Text.CharSet) :
    List ClassSet → Except Misreading Text.CharSet
  | [] => .ok sum
  | item :: items => (item.meaning m).bind fun s => ClassSet.unionOf m (sum.union s) items

end

/-- The dot matches all characters but those that end lines, or all. -/
def dotMeaning (m : Mode) (span : Span) : Except Misreading Pattern :=
  if !m.unicode then mistaken .notText span
  else if m.dotAll then .ok (.one .all)
  else if m.returnFeed then .ok (.one (.complement (.ofRanges [('\n', '\n'), ('\r', '\r')])))
  else .ok (.one (.complement (.single '\n')))

def Assertion.meaning (m : Mode) : Assertion → Anchor
  | .lineStart => if m.multiLine then .lineStart m.returnFeed else .start
  | .lineFinish => if m.multiLine then .lineFinish m.returnFeed else .finish
  | .textStart => .start
  | .textFinish => .finish
  | .edge e => .edge e (!m.unicode)

mutual

/-- What a part means, and the mode for what follows it. -/
def Written.meaning (m : Mode) : Written → Except Misreading (Pattern × Mode)
  | .nothing => .ok (.empty, m)
  | .flags s => .ok (.empty, m.apply s)
  | .letter l => (l.meaning m).map (·, m)
  | .dot span => (dotMeaning m span).map (·, m)
  | .assertion _ a => .ok (.place (a.meaning m), m)
  | .short span kind negated => (kind.meaning m span negated).map fun s => (.one s, m)
  | .property span name => (propertyMeaning m span name).map fun s => (.one s, m)
  | .bracket span negated inner =>
    (ClassSet.meaning m (.bracket span negated inner)).map fun s => (.one s, m)
  | .repeated _ part least most =>
    (part.meaning m).map fun (p, _) => (p.times least most, m)
  | .group _ isCaptured setting part =>
    (part.meaning (m.apply setting)).map fun (p, _) => (if isCaptured then .group p else p, m)
  | .both _ parts => (Written.meanings m parts).map fun (ps, m) => (sequence ps, m)
  | .either _ parts => (Written.meanings m parts).map fun (ps, m) => (anyOf ps, m)

/-- What parts mean one after the other. -/
def Written.meanings (m : Mode) : List Written → Except Misreading (List Pattern × Mode)
  | [] => .ok ([], m)
  | part :: parts =>
    (part.meaning m).bind fun (p, m) =>
      (Written.meanings m parts).map fun (ps, m) => (p :: ps, m)

end

end MagicBaud.Log.Pattern

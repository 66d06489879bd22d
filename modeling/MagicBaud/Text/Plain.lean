namespace MagicBaud.Text

/-- How much of a control sequence has been read. A device control string begins with parameters
and their refinements. -/
inductive Control where
  | outside
  | escaped
  | designated
  | sequence
  | device
  | parameters
  | refined
  | string
  | command
  deriving DecidableEq

namespace Control

/-- What an escape character and one more character begin. -/
def begin (c : Char) : Control :=
  if c = '[' then .sequence
  else if c = ']' then .command
  else if c = 'P' then .device
  else if c = 'X' || c = '^' || c = '_' then .string
  else if ' ' ≤ c && c ≤ '/' then .designated
  else if '0' ≤ c && c ≤ '~' then .outside
  else .escaped

/-- The byte that ends a control string, alone or within a character. -/
def terminator : UInt8 := 0x9C

/-- A terminal reads bytes, so that a character may end a control string by one of the bytes that
encode it. -/
def endsString (c : Char) : Bool := (String.utf8EncodeChar c).contains terminator

/-- What remains of a sequence after one more character. A private parameter behind others, or any
parameter behind a refinement, spoils a device control string, which is then skipped alike. -/
def next (c : Char) : Control → Control
  | .outside => .outside
  | .escaped => begin c
  | .designated => if '0' ≤ c && c ≤ '~' then .outside else .designated
  | .sequence => if '@' ≤ c && c ≤ '~' then .outside else .sequence
  | .device =>
    if '@' ≤ c && c ≤ '~' then .string
    else if ' ' ≤ c && c ≤ '/' then .refined
    else if '0' ≤ c && c ≤ '?' then .parameters
    else .device
  | .parameters =>
    if '<' ≤ c && c ≤ '~' then .string
    else if ' ' ≤ c && c ≤ '/' then .refined
    else .parameters
  | .refined => if '0' ≤ c && c ≤ '~' then .string else .refined
  | .string => if endsString c then .outside else .string
  | .command => if c = '\x07' then .outside else .command

/-- Control characters that lay out text. -/
def isLayout (c : Char) : Bool := c = '\t' || c = '\n' || c = '\x0c' || c = '\r'

/-- Whether the character is shown where this much of a sequence has been read. Layout is obeyed
within a sequence, but not within a control string. -/
def lets (c : Char) : Control → Bool
  | .outside => isLayout c || (' ' ≤ c && c ≠ '\x7f')
  | .escaped | .designated | .sequence => isLayout c
  | .device | .parameters | .refined | .string | .command => false

end Control

/-- What becomes of a sequence that layout stands within. -/
inductive Interruption where
  | abandons
  | suspends
  deriving DecidableEq

/-- The sequence that is still to be read after a character has been shown. A suspended one is
dropped at a character beyond ASCII. -/
def Interruption.pending (i : Interruption) (control : Control) (c : Char) : Control :=
  match i with
  | .abandons => .outside
  | .suspends => if c.toNat < 0x80 then control else .outside

/-- What is shown of a text. From a character that is shown on, all are that can be, and the first
that cannot goes to the sequence that was suspended. An escape begins a sequence anywhere, and two
control characters cancel it. -/
def shown (i : Interruption) : Bool → Control → List Char → List Char
  | _, _, [] => []
  | showing, control, c :: cs =>
    if c = '\x1b' then shown i false .escaped cs
    else if c = '\x18' || c = '\x1a' then shown i false .outside cs
    else if (if showing then Control.outside else control).lets c then
      c :: shown i true (i.pending control c) cs
    else shown i false (control.next c) cs

/-- The text for an output that is no terminal. -/
def plain (i : Interruption) (s : String) : String :=
  String.ofList (shown i false .outside s.toList)

end MagicBaud.Text

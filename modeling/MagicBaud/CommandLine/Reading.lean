import MagicBaud.CommandLine
import MagicBaud.CommandLine.Reply
import MagicBaud.Text.Split

namespace MagicBaud.CommandLine

/-- What a token is before anything is known of its place. -/
inductive Token where
  | separator
  | long (name : String) (value : Option String)
  | short (letters : List Char)
  | word (text : String)
  deriving DecidableEq

def Token.ofText (s : String) : Token :=
  match s.toList with
  | ['-', '-'] => .separator
  | '-' :: '-' :: cs =>
    let (name, value) := Text.cut '=' cs
    .long (String.ofList name) (value.map String.ofList)
  | '-' :: c :: cs => .short (c :: cs)
  | _ => .word s

def rateValue (f : Field) (value : String) : Except Refusal Rate :=
  (Rate.parse value).mapError (.unfit f value ∘ .rate)

def millisValue (f : Field) (value : String) : Except Refusal Millis :=
  match h : Text.Decimal.read (18446744073709551616) value.toList with
  | .ok n => .ok ⟨n, Text.Decimal.read_lt h⟩
  | .error fault => .error (.unfit f value (.number fault))

/-- Whether the field has its value. -/
def has (c : CommandLine) : Field → Bool
  | .rate => c.layer.rate.isSome
  | .port => c.layer.port.isSome
  | .neutral => c.layer.neutral.isSome
  | .settle => c.layer.settle.isSome
  | .config => c.config.isSome

/-- Puts a value into its field. An empty path counts as no value. -/
def put (c : CommandLine) (f : Field) (value : String) : Except Refusal CommandLine :=
  match f with
  | .rate => (rateValue f value).map fun r => { c with layer.rate := some r }
  | .port => .ok { c with layer.port := some value }
  | .neutral => (rateValue f value).map fun r => { c with layer.neutral := some r }
  | .settle => (millisValue f value).map fun t => { c with layer.settle := some t }
  | .config => if value = "" then .error (.missing f) else .ok { c with config := some value }

/-- Gives a field its value. No field gets two. -/
def give (c : CommandLine) (f : Field) (value : String) : Except Refusal CommandLine :=
  if c.has f then .error (.repeated (.field f)) else c.put f value

/-- Sets a flag. None is set twice; help and version are answered at once. -/
def raise (c : CommandLine) (f : Flag) (detailed : Bool) : Except Reply CommandLine :=
  match f with
  | .help => .error (.help detailed)
  | .version => .error .version
  | .list =>
    if c.list then .error (.refused (.repeated (.flag .list))) else .ok { c with list := true }
  | .verbose =>
    if c.verbose then .error (.refused (.repeated (.flag .verbose)))
    else .ok { c with verbose := true }

/-- The command line as read so far. The awaited field has perhaps got its token, but its value
has not been looked at. -/
structure Reading where
  line : CommandLine := {}
  awaited : Option (Field × Option String) := none
  words : Nat := 0
  onlyWords : Bool := false

namespace Reading

/-- Looks at the awaited value. -/
def settle (r : Reading) : Except Reply Reading :=
  match r.awaited with
  | none => .ok r
  | some (f, none) => .error (.refused (.missing f))
  | some (f, some value) =>
    match r.line.give f value with
    | .ok line => .ok { r with line := line, awaited := none }
    | .error e => .error (.refused e)

/-- Begins a field. Its value may come with the next token. -/
def await (r : Reading) (f : Field) (value : Option String) : Except Reply Reading :=
  r.settle.map fun r => { r with awaited := some (f, value) }

/-- Takes a field whose value stands in the same token. -/
def attach (r : Reading) (f : Field) (value : String) : Except Reply Reading :=
  (r.await f (some value)).bind settle

def flag (r : Reading) (f : Flag) (detailed : Bool) : Except Reply Reading :=
  r.settle.bind fun r => (r.line.raise f detailed).map fun line => { r with line := line }

def long (r : Reading) (name : String) (value : Option String) : Except Reply Reading :=
  match Argument.ofName? name, value with
  | none, _ => .error (.refused (.unknown ("--" ++ name)))
  | some (.field f), some value => r.attach f value
  | some (.field f), none => r.await f none
  | some (.flag f), some value => .error (.refused (.unneeded f value))
  | some (.flag f), none => r.flag f true

/-- One-letter arguments in one token. A field takes the rest of the token, perhaps after an
equals sign. -/
def short : List Char → Reading → Except Reply Reading
  | [], r => .ok r
  | c :: cs, r =>
    match Argument.ofLetter? c with
    | none => .error (.refused (.unknown (String.ofList ['-', c])))
    | some (.flag f) => (r.flag f false).bind (short cs)
    | some (.field f) =>
      match cs with
      | [] => r.await f none
      | '=' :: value => r.attach f (String.ofList value)
      | value => r.attach f (String.ofList value)

/-- The field of each argument without a name: the rate, then the port. -/
def wordField? : Nat → Option Field
  | 0 => some .rate
  | 1 => some .port
  | _ => none

def word (r : Reading) (text : String) : Except Reply Reading :=
  match wordField? r.words with
  | some f => (r.await f (some text)).map fun r => { r with words := r.words + 1 }
  | none => .error (.refused (.unknown text))

/-- Reads one token. Behind a separator there are only words. -/
def step (r : Reading) (token : String) : Except Reply Reading :=
  if r.onlyWords then r.word token
  else
    match Token.ofText token, r.awaited with
    | .separator, _ => .ok { r with onlyWords := true }
    | .long name value, _ => r.long name value
    | .short letters, _ => short letters r
    | .word text, some (f, none) => .ok { r with awaited := some (f, some text) }
    | .word text, _ => r.word text

end Reading

/-- What a list of tokens asks for, or the answer to a list that asks for nothing. The first fault
from the left decides the answer. -/
def parse (tokens : List String) : Except Reply CommandLine :=
  (tokens.foldlM Reading.step {}).bind fun r => r.settle.map (·.line)

end MagicBaud.CommandLine

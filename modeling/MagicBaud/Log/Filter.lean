import MagicBaud.Log.Pattern.Reading
import MagicBaud.Log.Record
import MagicBaud.Text.Blank
import MagicBaud.Text.Split

namespace MagicBaud.Log

/-- The most detailed level that is let through, if any is. -/
inductive Threshold where
  | off
  | upTo (level : Level)
  deriving DecidableEq, Repr

namespace Threshold

def admits : Threshold → Level → Bool
  | .off, _ => false
  | .upTo most, level => level.detail ≤ most.detail

def all : Threshold := .upTo .trace

/-- Letter case does not matter. -/
def ofName? (name : String) : Option Threshold :=
  match String.ofList (name.toList.map Char.toUpper) with
  | "OFF" => some .off
  | "ERROR" => some (.upTo .error)
  | "WARN" => some (.upTo .warn)
  | "INFO" => some (.upTo .info)
  | "DEBUG" => some (.upTo .debug)
  | "TRACE" => some (.upTo .trace)
  | _ => none

end Threshold

/-- A threshold for all targets, or for those that begin with a text. -/
structure Directive where
  target : Option String
  threshold : Threshold
  deriving DecidableEq

namespace Directive

def covers (d : Directive) (target : String) : Bool :=
  match d.target with
  | some start => start.toList.isPrefixOf target.toList
  | none => true

/-- A longer target is more specific. -/
def weight (d : Directive) : Nat :=
  match d.target with
  | some start => start.utf8ByteSize
  | none => 0

end Directive

/-- What is ignored in the text of a filter. -/
inductive Ignored where
  | directive (text : String)
  | slashes (text : String)
  | pattern (text : String) (r : Pattern.Rejection)
  deriving DecidableEq

def Ignored.message : Ignored → String
  | .directive text => "warning: invalid logging spec '" ++ text ++ "', ignoring it"
  | .slashes text => "warning: invalid logging spec '" ++ text ++ "' (too many '/'s), ignoring it"
  | .pattern text r => "warning: invalid regex filter - " ++ r.message text ++ ", ignoring it"

/-- Reads one directive. A target alone, or with an empty level, lets all levels through. -/
def Directive.parse (text : String) : Except Ignored Directive :=
  match (Text.split '=' text.toList).map String.ofList with
  | [name] =>
    match Threshold.ofName? name with
    | some threshold => .ok ⟨none, threshold⟩
    | none => .ok ⟨some name, Threshold.all⟩
  | [target, name] =>
    let name := Text.trim name
    if name = "" then .ok ⟨some target, Threshold.all⟩
    else
      match Threshold.ofName? name with
      | some threshold => .ok ⟨some target, threshold⟩
      | none => .error (.directive name)
  | _ => .error (.directive text)

structure Filter where
  directives : List Directive
  pattern : Option Pattern := none

namespace Filter

/-- Puts a directive in the place of one for the same target, or behind all others. -/
def add (ds : List Directive) (d : Directive) : List Directive :=
  if ds.any (·.target = d.target) then ds.map fun e => if e.target = d.target then d else e
  else ds ++ [d]

/-- Of the directives that cover the target, the most specific, and of those the last. -/
def decisive? (f : Filter) (target : String) : Option Directive :=
  let ranked := f.directives.mergeSort (fun d e => d.weight ≤ e.weight)
  ranked.reverse.find? (·.covers target)

def admits (f : Filter) (target : String) (level : Level) : Bool :=
  (f.decisive? target).any (·.threshold.admits level)

def shows (f : Filter) (r : Record) : Bool :=
  f.admits r.target r.level && f.pattern.all (·.occursIn r.text)

/-- Without any directive only errors are shown. -/
def ofDirectives (ds : List Directive) : Filter :=
  if ds.isEmpty then { directives := [⟨none, .upTo .error⟩] }
  else { directives := ds.foldl add [] }

/-- Reads the directives of a text, blanks around them and empty ones ignored. -/
def parseDirectives (text : String) : List Ignored × List Directive :=
  let parts := (Text.split ',' text.toList).map (fun part => Text.trim (String.ofList part))
  let read := (parts.filter (· ≠ "")).map Directive.parse
  (read.filterMap fun
      | .error ignored => some ignored
      | .ok _ => none,
    read.filterMap (·.toOption))

/-- The filter that a text describes, with what had to be ignored. -/
def parse (text : String) : List Ignored × Filter :=
  match (Text.split '/' text.toList).map String.ofList with
  | [directives] =>
    let (ignored, ds) := parseDirectives directives
    (ignored, ofDirectives ds)
  | [directives, pattern] =>
    let (ignored, ds) := parseDirectives directives
    match Pattern.parse pattern with
    | .ok p => (ignored, { ofDirectives ds with pattern := some p })
    | .error r => (ignored ++ [.pattern pattern r], ofDirectives ds)
  | _ => ([.slashes text], ofDirectives [])

end Filter
end MagicBaud.Log

namespace MagicBaud.CommandLine

/-- An argument with a value. The first two stand by themselves, in this order; the others follow
their names. -/
inductive Field where
  | rate
  | port
  | neutral
  | settle
  | config
  deriving DecidableEq, Repr

inductive Flag where
  | list
  | verbose
  | help
  | version
  deriving DecidableEq, Repr

inductive Argument where
  | field (f : Field)
  | flag (f : Flag)
  deriving DecidableEq, Repr

def Field.label : Field → String
  | .rate => "[BAUD]"
  | .port => "[PORT]"
  | .neutral => "--neutral-baud <RATE>"
  | .settle => "--settle-ms <MS>"
  | .config => "--config <FILE>"

def Flag.label : Flag → String
  | .list => "--list"
  | .verbose => "--verbose"
  | .help => "--help"
  | .version => "--version"

namespace Argument

def label : Argument → String
  | .field f => f.label
  | .flag f => f.label

/-- The argument with this full name, letter case included. -/
def ofName? (name : String) : Option Argument :=
  if name = "neutral-baud" then some (.field .neutral)
  else if name = "settle-ms" then some (.field .settle)
  else if name = "config" then some (.field .config)
  else if name = "list" then some (.flag .list)
  else if name = "verbose" then some (.flag .verbose)
  else if name = "help" then some (.flag .help)
  else if name = "version" then some (.flag .version)
  else none

/-- The argument with this one-letter name. -/
def ofLetter? (letter : Char) : Option Argument :=
  if letter = 'c' then some (.field .config)
  else if letter = 'l' then some (.flag .list)
  else if letter = 'v' then some (.flag .verbose)
  else if letter = 'h' then some (.flag .help)
  else if letter = 'V' then some (.flag .version)
  else none

end Argument
end MagicBaud.CommandLine

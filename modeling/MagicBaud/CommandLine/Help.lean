import MagicBaud.CommandLine.Argument
import MagicBaud.Rate

namespace MagicBaud.CommandLine.Help

def programName : String := "serial-switcher"

def version : String := programName ++ " 0.1.0\n"

/-- How an argument is written and what it is for. -/
structure Entry where
  spelling : String
  purpose : String

def positionals : List Entry :=
  [⟨Field.rate.label, "Target baud rate or preset name [default: 14400]"⟩,
    ⟨Field.port.label, "Serial port path [default: /dev/ttyACM0]"⟩]

/-- The named arguments, where `other` says what the other help text has. -/
def options (other : String) : List Entry :=
  [⟨"    " ++ Field.neutral.label, "Baud rate to leave the port at [default: 9600]"⟩,
    ⟨"    " ++ Field.settle.label, "Milliseconds to wait between the two opens [default: 0]"⟩,
    ⟨"-c, " ++ Field.config.label,
      "TOML file with defaults for port, baud, neutral_baud and settle_ms"⟩,
    ⟨"-l, " ++ Flag.list.label, "List available serial ports and exit"⟩,
    ⟨"-v, " ++ Flag.verbose.label, "Enable verbose output"⟩,
    ⟨"-h, " ++ Flag.help.label, "Print help (see " ++ other ++ ")"⟩,
    ⟨"-V, " ++ Flag.version.label, "Print version"⟩]

/-- One line an entry, the purposes in a column. -/
def columns (entries : List Entry) : String :=
  let width := entries.foldl (fun w e => max w e.spelling.length) 0
  String.join <| entries.map fun e =>
    "  " ++ e.spelling ++ String.ofList (List.replicate (width - e.spelling.length) ' ')
      ++ "  " ++ e.purpose ++ "\n"

/-- Two lines an entry, with a blank line between entries. -/
def paragraphs (entries : List Entry) : String :=
  "\n".intercalate (entries.map fun e => "  " ++ e.spelling ++ "\n          " ++ e.purpose ++ "\n")

def page (about : String) (layout : List Entry → String) (other : String) : String :=
  about ++ "\n\nUsage: " ++ programName ++ " [OPTIONS] [BAUD] [PORT]\n\nArguments:\n"
    ++ layout positionals ++ "\nOptions:\n" ++ layout (options other) ++ "\n" ++ Preset.help ++ "\n"

def summary : String :=
  page "Reset a serial device by toggling its port through a magic baud rate" columns
    "more with '--help'"

def detailed : String :=
  page ("Serial Switcher\n\n"
      ++ "Opens PORT at BAUD, closes it, then reopens and closes it at the neutral rate")
    paragraphs "a summary with '-h'"

end MagicBaud.CommandLine.Help

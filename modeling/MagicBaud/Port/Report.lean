import MagicBaud.Port
import MagicBaud.Text.Style

namespace MagicBaud.Port
open Text

/-- Four hexadecimal digits. -/
def hex (n : UInt16) : String :=
  let digits := Nat.toDigits 16 n.toNat
  String.ofList (List.replicate (4 - digits.length) '0' ++ digits)

/-- A line of its own for a value that the system gave. -/
def detail (label : String) : Option String → List String
  | some value => ["    " ++ label ++ ": " ++ value]
  | none => []

def deviceLines (d : UsbDevice) : List String :=
  detail "Manufacturer" d.manufacturer ++ detail "Product" d.product ++
    detail "Serial" d.serialNumber ++ ["    VID:PID: " ++ hex d.vid ++ ":" ++ hex d.pid]

def marker (colour : Bool) (p : Port) : String :=
  if p.isCandidate then Style.boldCyan.paint colour "[*]" else Style.dimmed.paint colour "[ ]"

/-- The lines of one port, after an empty one. -/
def block (colour : Bool) (p : Port) : List String :=
  ["", p.marker colour ++ " " ++ Style.boldWhite.paint colour p.path,
    "    Type: " ++ p.attachment.name] ++
  match p.device? with
  | some d => deviceLines d
  | none => []

def ruler : String := String.ofList (List.replicate 60 '=')

def advice (colour : Bool) : List String :=
  [Style.yellow.paint colour "No serial ports found", "",
    Style.boldCyan.paint colour "Troubleshooting tips:",
    "  1. Connect the device over USB",
    "  2. Check if it is recognized: ls -la /dev/ttyACM*",
    "  3. Add your user to the 'dialout' group: sudo usermod -aG dialout $USER"]

def reportLines (colour : Bool) (ports : List Port) : List String :=
  if ports.isEmpty then advice colour
  else
    [Style.boldGreen.paint colour "Available Serial Ports:", ruler] ++
    (candidatesFirst ports).flatMap (block colour) ++
    ["", ruler, Style.yellow.paint colour
      "Ports marked [*] are CDC-ACM devices. Use: serial-switcher <BAUD> <PORT>"]

/-- The report, every line of it ended. -/
def report (colour : Bool) (ports : List Port) : String :=
  String.join ((reportLines colour ports).map (· ++ "\n"))

end MagicBaud.Port

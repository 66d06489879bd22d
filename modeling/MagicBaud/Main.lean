import MagicBaud.Program

namespace MagicBaud.Machine

/-- The reason by the number that the system gives it. -/
def readErrorOf (code : UInt32) : ReadError :=
  match code.toNat with
  | 2 => .notFound
  | 13 => .denied
  | 20 => .notDirectory
  | 21 => .isDirectory
  | 36 => .nameTooLong
  | _ => .failed

def readError : IO.Error → ReadError
  | .noFileOrDirectory .. => .notFound
  | .permissionDenied _ code _ => readErrorOf code
  | .inappropriateType _ code _ => readErrorOf code
  | .invalidArgument _ code _ => readErrorOf code
  | _ => .failed

def readText (path : String) : IO (Except ReadError String) := do
  match ← (IO.FS.readBinFile path).toBaseIO with
  | .ok bytes => return (Content.bytes bytes).read
  | .error e => return .error (readError e)

/-- The first line of a file of the system's device tree. -/
def firstLine (path : String) : IO (Option String) := do
  return (← readText path).toOption.map Text.firstLine

def hexValue (s : String) : UInt16 :=
  let digit (c : Char) : Nat := if c.isDigit then c.toNat - 48 else c.toLower.toNat - 87
  UInt16.ofNat (s.toList.foldl (fun n c => n * 16 + digit c) 0)

/-- The device whose description lies in a folder. -/
def usbDevice (folder : String) : IO (Option UsbDevice) := do
  match ← firstLine (folder ++ "/idVendor"), ← firstLine (folder ++ "/idProduct") with
  | some vid, some pid =>
    return some
      { vid := hexValue vid, pid := hexValue pid,
        manufacturer := ← firstLine (folder ++ "/manufacturer"),
        product := ← firstLine (folder ++ "/product"),
        serialNumber := ← firstLine (folder ++ "/serial") }
  | _, _ => return none

/-- The device files that serial adapters get, up to `count` of each kind. -/
def deviceNames (count : Nat) : List String :=
  ["ttyACM", "ttyUSB"].flatMap fun stem => (List.range count).map (stem ++ toString ·)

def port (name : String) : IO (Option Port) := do
  let folder := "/sys/class/tty/" ++ name
  if (← firstLine (folder ++ "/dev")).isNone then return none
  let near ← usbDevice (folder ++ "/device/..")
  let far ← usbDevice (folder ++ "/device/../..")
  match near.or far with
  | some device => return some ⟨"/dev/" ++ name, .usb device⟩
  | none => return some ⟨"/dev/" ++ name, .unknown⟩

def ports : IO (List Port) := do return (← (deviceNames 64).mapM port).filterMap id

/-- Why a port cannot be used at a rate of choice. Whether its device file opens is tried, but the
rate is set by a terminal call, which no file operation makes. -/
def refusal (path : String) : IO Fault := do
  match ← (IO.FS.Handle.mk path .readWrite).toBaseIO with
  | .ok _ => return ⟨.unknown, "the rate of a port cannot be set without a terminal call"⟩
  | .error (.noFileOrDirectory ..) => return ⟨.noDevice, "No such file or directory"⟩
  | .error (.permissionDenied ..) => return ⟨.permissionDenied, "Permission denied"⟩
  | .error e => return ⟨.unknown, toString e⟩

/-- The files that a command line needs. -/
def files (c : CommandLine) : IO Files := do
  match c.config with
  | none => return fun _ => .error .notFound
  | some path =>
    let found ← readText path
    return fun wanted => if wanted = path then found else .error .notFound

/-- What is there for the given tokens. Nothing is looked at that they do not need. -/
def world (tokens : List String) : IO World := do
  let logSpec ← IO.getEnv "RUST_LOG"
  let colour ← (← IO.getStdout).isTty
  let blank : World :=
    { files := fun _ => .error .notFound, logSpec := logSpec, ports := .ok [],
      faults := fun _ => none, colour := colour }
  match CommandLine.parse tokens with
  | .error _ => return blank
  | .ok c =>
    if c.list then return { blank with ports := .ok (← ports) }
    let found ← files c
    match c.settings found with
    | .error _ => return { blank with files := found }
    | .ok s =>
      let fault ← refusal s.port
      return { blank with files := found, faults := fun _ => some fault }

end MagicBaud.Machine

def main (tokens : List String) : IO UInt32 := do
  let outcome := MagicBaud.Program.run (← MagicBaud.Machine.world tokens) tokens
  IO.print outcome.output
  IO.eprint outcome.messages
  return UInt32.ofNat outcome.exit

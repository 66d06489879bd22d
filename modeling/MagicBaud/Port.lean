namespace MagicBaud

structure UsbDevice where
  vid : UInt16
  pid : UInt16
  manufacturer : Option String
  product : Option String
  serialNumber : Option String
  deriving DecidableEq

/-- How a port is attached to the machine. -/
inductive Attachment where
  | usb (device : UsbDevice)
  | pci
  | bluetooth
  | unknown
  deriving DecidableEq

def Attachment.name : Attachment → String
  | .usb _ => "USB"
  | .pci => "PCI"
  | .bluetooth => "Bluetooth"
  | .unknown => "Unknown"

structure Port where
  path : String
  attachment : Attachment
  deriving DecidableEq

namespace Port

/-- Whether `part` stands somewhere in the text. -/
def occurs (part : List Char) : List Char → Bool
  | [] => part.isEmpty
  | c :: cs => part.isPrefixOf (c :: cs) || occurs part cs

/-- The path has a name that modem-like devices are given. -/
def hasModemPath (p : Port) : Bool :=
  occurs "ttyACM".toList p.path.toList || occurs "usbmodem".toList p.path.toList

/-- Looks like a USB CDC-ACM device, the kind that reacts to a change of rate. -/
def isCandidate (p : Port) : Bool :=
  match p.attachment with
  | .usb _ => p.hasModemPath || "COM".toList.isPrefixOf p.path.toList
  | .unknown => p.hasModemPath
  | .pci => false
  | .bluetooth => false

def device? (p : Port) : Option UsbDevice :=
  match p.attachment with
  | .usb device => some device
  | _ => none

/-- The candidates come first; otherwise the order stays. -/
def candidatesFirst (ports : List Port) : List Port :=
  ports.mergeSort (fun p q => p.isCandidate || !q.isCandidate)

end Port
end MagicBaud

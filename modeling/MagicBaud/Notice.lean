import MagicBaud.Duration
import MagicBaud.Log.Record
import MagicBaud.Rate

namespace MagicBaud

inductive Notice where
  | switching (port : String) (target neutral : Rate)
  | opening (port : String) (rate : Rate)
  | closing (port : String)
  | waiting (pause : Duration)
  | switched (port : String) (target neutral : Rate)
  deriving DecidableEq

namespace Notice

def text : Notice → String
  | .switching port target neutral =>
    "Switching " ++ port ++ " to " ++ target.text ++ " baud, then back to " ++ neutral.text
  | .opening port rate => "Opening " ++ port ++ " at " ++ rate.text ++ " baud"
  | .closing port => "Closing " ++ port
  | .waiting pause => "Waiting " ++ pause.text ++ " before reopening"
  | .switched port target neutral =>
    port ++ " switched via " ++ target.text ++ " baud, left at " ++ neutral.text

/-- Only the final success is told at the level shown without being asked for. -/
def level : Notice → Log.Level
  | .switched .. => .info
  | _ => .debug

def target : Notice → String
  | .switched .. => "serial_switcher"
  | _ => "serial_switcher::switcher"

def record (n : Notice) : Log.Record := ⟨n.level, n.target, n.text⟩

end Notice
end MagicBaud

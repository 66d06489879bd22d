import MagicBaud.Switch

namespace MagicBaud

structure Settings where
  port : String
  target : Rate
  neutral : Rate
  settle : Duration
  deriving DecidableEq

def Settings.defaultPort : String := "/dev/ttyACM0"

def Settings.toSwitch (s : Settings) : Switch :=
  { port := s.port, target := s.target, neutral := s.neutral, settle := s.settle }

/-- Settings each of which may be left unset. -/
structure Layer where
  port : Option String := none
  rate : Option Rate := none
  neutral : Option Rate := none
  settle : Option Millis := none
  deriving DecidableEq

namespace Layer

def empty : Layer := {}

/-- Fills what is unset from a layer of lower priority. -/
def or (upper lower : Layer) : Layer where
  port := upper.port.or lower.port
  rate := upper.rate.or lower.rate
  neutral := upper.neutral.or lower.neutral
  settle := upper.settle.or lower.settle

/-- Fills what is still unset with the defaults. -/
def resolve (l : Layer) : Settings where
  port := l.port.getD Settings.defaultPort
  target := l.rate.getD Rate.defaultTarget
  neutral := l.neutral.getD Rate.neutral
  settle := Duration.ofMillis (l.settle.getD Millis.zero)

/-- All layers in one, from the highest priority to the lowest. -/
def stack (layers : List Layer) : Layer := layers.foldl or empty

/-- The layer reached after each addition. What could not be loaded adds nothing. -/
def build {ε : Type} (reached : Layer) : List (Except ε Layer) → List (Except ε Layer) × Layer
  | [] => ([], reached)
  | .error e :: ls =>
    let (steps, last) := build reached ls
    (.error e :: steps, last)
  | .ok l :: ls =>
    let (steps, last) := build (reached.or l) ls
    (.ok (reached.or l) :: steps, last)

end Layer
end MagicBaud

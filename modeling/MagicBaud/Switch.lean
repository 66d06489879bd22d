import MagicBaud.Session

namespace MagicBaud

/-- A port is opened and closed at the target rate, which the device acts on, and then opened and
closed once more at a neutral rate. -/
structure Switch where
  port : String
  target : Rate
  neutral : Rate := Rate.neutral
  settle : Duration := Duration.zero
  deriving DecidableEq

namespace Switch
variable {σ η ε : Type}

/-- Opens and closes the port once. A failed opening ends the session. -/
def toggle (w : Switch) (rate : Rate) (next : Session η ε) : Session η ε :=
  .notice (.opening w.port rate) <| .openPort w.port rate fun
    | .error e => .done (.error e)
    | .ok handle => .notice (.closing w.port) (.closePort handle next)

/-- Waits for the device to settle, if there is anything to wait for. -/
def settled (w : Switch) (next : Session η ε) : Session η ε :=
  if w.settle.isZero then next else .notice (.waiting w.settle) (.pause w.settle next)

def session (w : Switch) : Session η ε :=
  .notice (.switching w.port w.target w.neutral) <|
    w.toggle w.target <| w.settled <| w.toggle w.neutral <| .done (.ok ())

def run (o : Opener σ η ε) (w : Switch) (s : σ) : Run σ η ε := w.session.run o s

/-- Runs switches one after another. A failed run does not keep the next from starting. -/
def runAll (o : Opener σ η ε) : List Switch → σ → List (Run σ η ε)
  | [], _ => []
  | w :: ws, s => w.run o s :: runAll o ws (w.run o s).state

end Switch
end MagicBaud

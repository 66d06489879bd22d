import MagicBaud.Session

namespace MagicBaud

inductive FaultKind where
  | noDevice
  | invalidInput
  | unknown
  | notFound
  | permissionDenied
  deriving DecidableEq, Repr

/-- What the hardware says when it refuses. -/
structure Fault where
  kind : FaultKind
  message : String
  deriving DecidableEq

structure OpenError where
  port : String
  rate : Rate
  fault : Fault
  deriving DecidableEq

def OpenError.message (e : OpenError) : String :=
  "failed to open " ++ e.port ++ " at " ++ e.rate.text ++ " baud"

inductive Call where
  | listed
  | opened (path : String) (rate : Rate) (timeout : Option Duration)
  | closed (handle : Nat)
  deriving DecidableEq

/-- The fault, if any, of each opening, counted from zero with failed ones included. -/
abbrev FaultPlan := Nat → Option Fault

/-- What has reached the hardware so far. -/
structure Tape where
  opens : Nat := 0
  calls : List Call := []

namespace Tape

/-- An opening that succeeds yields its own number as the handle. -/
def attempt (plan : FaultPlan) (t : Tape) (path : String) (rate : Rate)
    (timeout : Option Duration) : Except Fault Nat × Tape :=
  let answer := match plan t.opens with
    | some fault => .error fault
    | none => .ok t.opens
  (answer, ⟨t.opens + 1, t.calls ++ [.opened path rate timeout]⟩)

def release (t : Tape) (handle : Nat) : Tape := { t with calls := t.calls ++ [.closed handle] }

/-- The calls of each run, where the first run began with `t`. -/
def callsPerRun {η ε : Type} (t : Tape) : List (Run Tape η ε) → List (List Call)
  | [] => []
  | r :: rs => r.state.calls.drop t.calls.length :: r.state.callsPerRun rs

end Tape

namespace Opener

def recorder (plan : FaultPlan) : Opener Tape Nat OpenError where
  openPort t path rate :=
    match t.attempt plan path rate none with
    | (.ok handle, t') => (.ok handle, t')
    | (.error fault, t') => (.error ⟨path, rate, fault⟩, t')
  closePort t handle := t.release handle

/-- How long the system's opener lets a port take. -/
def systemTimeout : Duration := Duration.ofMillis ⟨100, by decide⟩

def system (plan : FaultPlan) : Opener Tape Nat OpenError where
  openPort t path rate :=
    let (answer, t') := t.attempt plan path rate (some systemTimeout)
    (answer.mapError (⟨path, rate, ·⟩), t')
  closePort t handle := t.release handle

end Opener
end MagicBaud

import MagicBaud.CommandLine.Reading
import MagicBaud.Failure
import MagicBaud.Log.Filter
import MagicBaud.Port.Report

namespace MagicBaud

/-- What the program finds around it. -/
structure World where
  files : Files
  logSpec : Option String
  ports : Except Fault (List Port)
  faults : FaultPlan
  colour : Bool := false

/-- What an accepted command line is about. -/
inductive Task where
  | list
  | switch (s : Settings)

/-- Listing needs no settings, so that a bad file does not keep it from being done. -/
def CommandLine.task (files : Files) (c : CommandLine) : Except Failure Task :=
  if c.list then .ok .list
  else
    match c.settings files with
    | .ok s => .ok (.switch s)
    | .error e => .error (.config e)

/-- What has been done, and what there is to say about it. -/
structure Work where
  output : String := ""
  notices : List Notice := []
  result : Except Failure Unit
  calls : List Call := []

namespace Work

def ofListing (colour : Bool) (ports : Except Fault (List Port)) : Work :=
  match ports with
  | .ok ports => { output := Port.report colour ports, result := .ok (), calls := [.listed] }
  | .error fault => { result := .error (.listing fault), calls := [.listed] }

/-- A switch that went through is told once more, where it can be seen. -/
def ofRun {σ η : Type} (s : Settings) (r : Run σ η OpenError) (calls : List Call) : Work :=
  match r.result with
  | .ok () =>
    { notices := r.notices ++ [.switched s.port s.target s.neutral], result := .ok (),
      calls := calls }
  | .error e => { notices := r.notices, result := .error (.switching e), calls := calls }

def failure? (w : Work) : Option Failure :=
  match w.result with
  | .ok () => none
  | .error failure => some failure

end Work

def Task.perform (w : World) : Task → Work
  | .list => .ofListing w.colour w.ports
  | .switch s =>
    let r := s.toSwitch.run (Opener.system w.faults) {}
    .ofRun s r r.state.calls

def CommandLine.work (w : World) (c : CommandLine) : Work :=
  match c.task w.files with
  | .ok task => task.perform w
  | .error failure => { result := .error failure }

/-- Being verbose sets only what is shown where the user has not said it otherwise. -/
def CommandLine.logSpec (given : Option String) (c : CommandLine) : String :=
  given.getD (if c.verbose then "debug" else "info")

/-- What the user sees of a run. -/
structure Outcome where
  exit : Nat
  output : String := ""
  refusal : Option CommandLine.Refusal := none
  ignored : List Log.Ignored := []
  records : List Log.Record := []
  failure : Option Failure := none
  calls : List Call := []

namespace Outcome

def ofReply : CommandLine.Reply → Outcome
  | .refused r => { exit := 2, refusal := some r }
  | reply => { exit := 0, output := reply.text }

def ofWork (logSpec : String) (work : Work) : Outcome where
  exit := if work.result.toBool then 0 else 1
  output := work.output
  ignored := (Log.Filter.parse logSpec).1
  records := (work.notices.map Notice.record).filter (Log.Filter.parse logSpec).2.shows
  failure := work.failure?
  calls := work.calls

/-- All that is written for the user beside the output. -/
def messages (o : Outcome) : String :=
  String.join <|
    o.refusal.toList.map CommandLine.Refusal.shown ++ o.ignored.map (·.message ++ "\n")
      ++ o.records.map Log.Record.shown ++ o.failure.toList.map Failure.report

end Outcome

namespace Program

def run (w : World) (tokens : List String) : Outcome :=
  match CommandLine.parse tokens with
  | .ok c => .ofWork (c.logSpec w.logSpec) (c.work w)
  | .error reply => .ofReply reply

end Program
end MagicBaud

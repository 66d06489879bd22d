import MagicBaud.Program
import MagicBaud.Proofs.Account

namespace MagicBaud

/-- The time that the system gives a port to open, a tenth of a second. -/
def openLimit : Option Duration := Duration.ofNanos? 100000000

/-- What reaches the hardware in a switch: the second opening is tried if the first went well, and
each handle is closed at once. -/
def Settings.calls (plan : FaultPlan) (s : Settings) : List Call :=
  .opened s.port s.target openLimit ::
    if (plan 0).isSome then []
    else
      .closed 0 :: .opened s.port s.neutral openLimit ::
        if (plan 1).isSome then [] else [.closed 1]

namespace Program

/-- The exit code and the calls that are due. -/
def due (w : World) (tokens : List String) : Nat × List Call :=
  match CommandLine.parse tokens with
  | .error (.refused _) => (2, [])
  | .error (.help _) => (0, [])
  | .error .version => (0, [])
  | .ok c =>
    if c.list then (if w.ports.isOk then 0 else 1, [.listed])
    else
      match c.settings w.files with
      | .error _ => (1, [])
      | .ok s => (if (w.faults 0).isNone && (w.faults 1).isNone then 0 else 1, s.calls w.faults)

end Program

theorem Settings.calls_eq (plan : FaultPlan) (s : Settings) :
    s.calls plan = (s.toSwitch.account plan openLimit 0).calls := by
  unfold calls Switch.account
  cases plan 0 with
  | some fault => rfl
  | none => cases plan 1 <;> rfl

/-- A run goes through if and only if neither of its openings fails. -/
theorem Switch.account_isOk {plan : FaultPlan} {limit : Option Duration} (w : Switch) (first : Nat) :
    (w.account plan limit first).result.isOk =
      ((plan first).isNone && (plan (first + 1)).isNone) := by
  unfold account
  cases plan first with
  | some fault => rfl
  | none => cases plan (first + 1) <;> rfl

theorem Work.ofRun_spec {σ η : Type} (s : Settings) (r : Run σ η OpenError) (calls : List Call) :
    (Work.ofRun s r calls).calls = calls ∧ (Work.ofRun s r calls).output = "" ∧
      (Work.ofRun s r calls).result.isOk = r.result.isOk := by
  unfold Work.ofRun
  cases r.result with
  | ok _ => exact ⟨rfl, rfl, rfl⟩
  | error e => exact ⟨rfl, rfl, rfl⟩

/-- A switch goes through if and only if both ports open. -/
theorem Settings.run_isOk (plan : FaultPlan) (s : Settings) :
    (s.toSwitch.run (Opener.system plan) {}).result.isOk =
      ((plan 0).isNone && (plan 1).isNone) := by
  rw [(Switch.run_account (Opener.system_follows plan) s.toSwitch {}).1]
  exact s.toSwitch.account_isOk 0

/-- Switching makes the calls of the settings and prints nothing. -/
theorem Task.perform_switch (w : World) (s : Settings) :
    ((Task.switch s).perform w).calls = s.calls w.faults ∧
      ((Task.switch s).perform w).output = "" ∧
      ((Task.switch s).perform w).result.isOk = ((w.faults 0).isNone && (w.faults 1).isNone) := by
  have hs := (Switch.run_account (Opener.system_follows w.faults) s.toSwitch {}).2
  obtain ⟨hc, ho, hk⟩ := Work.ofRun_spec s (s.toSwitch.run (Opener.system w.faults) {})
    (s.toSwitch.run (Opener.system w.faults) {}).state.calls
  refine ⟨?_, ho, hk.trans (s.run_isOk w.faults)⟩
  refine hc.trans ?_
  rw [hs, s.calls_eq]
  rfl

/-- Settings are missing just when a file is named and cannot be loaded. -/
theorem CommandLine.settings_error_iff (files : Files) (c : CommandLine) :
    (∃ e, c.settings files = .error e) ↔
      ∃ path e, c.config = some path ∧ Config.load files path = .error e := by
  unfold settings fileLayer
  cases hc : c.config with
  | none => simp [Except.map]
  | some path =>
    cases hl : Config.load files path with
    | error e => simp [Except.map, hl]
    | ok file => simp [Except.map, hl]

/-- Missing settings are missing for what went wrong with the file. -/
theorem CommandLine.settings_eq_error {files : Files} {c : CommandLine} {e : Config.LoadError}
    (h : c.settings files = .error e) :
    ∃ path, c.config = some path ∧ Config.load files path = .error e := by
  unfold settings fileLayer at h
  cases hc : c.config with
  | none =>
    rw [hc] at h
    cases h
  | some path =>
    simp only [hc] at h
    cases hl : Config.load files path with
    | error e' =>
      rw [hl] at h
      cases h
      exact ⟨path, rfl, hl⟩
    | ok file =>
      rw [hl] at h
      cases h

/-- A switch lists nothing. -/
theorem Settings.listed_not_mem_calls (plan : FaultPlan) (s : Settings) :
    .listed ∉ s.calls plan := by
  unfold calls
  cases plan 0 with
  | some fault => simp
  | none => cases plan 1 <;> simp

namespace CommandLine
variable {w : World} {c : CommandLine}

theorem work_list (hl : c.list = true) : c.work w = .ofListing w.colour w.ports := by
  unfold work task
  rw [if_pos hl]
  rfl

theorem work_unloaded {e : Config.LoadError} (hl : c.list = false)
    (he : c.settings w.files = .error e) : c.work w = { result := .error (.config e) } := by
  unfold work task
  rw [if_neg (by simp [hl]), he]

theorem work_switch {s : Settings} (hl : c.list = false) (hs : c.settings w.files = .ok s) :
    c.work w = (Task.switch s).perform w := by
  unfold work task
  rw [if_neg (by simp [hl]), hs]

end CommandLine

theorem Work.ofListing_spec (colour : Bool) (ports : Except Fault (List Port)) :
    (Work.ofListing colour ports).calls = [.listed] ∧
      (Work.ofListing colour ports).result.isOk = ports.isOk := by
  cases ports with
  | ok ports => exact ⟨rfl, rfl⟩
  | error fault => exact ⟨rfl, rfl⟩

namespace Program
variable {w : World} {tokens : List String}

/-- The outcome of an accepted command line is that of its work. -/
theorem run_accepted {c : CommandLine} (h : CommandLine.parse tokens = .ok c) :
    run w tokens = .ofWork (c.logSpec w.logSpec) (c.work w) := by
  unfold run
  rw [h]

theorem run_answered {reply : CommandLine.Reply} (h : CommandLine.parse tokens = .error reply) :
    run w tokens = .ofReply reply := by
  unfold run
  rw [h]

theorem answered_due {reply : CommandLine.Reply} (h : CommandLine.parse tokens = .error reply) :
    ((run w tokens).exit, (run w tokens).calls) = due w tokens ∧ (run w tokens).calls = [] := by
  unfold due
  rw [run_answered h, h]
  cases reply with
  | help detailed => exact ⟨rfl, rfl⟩
  | version => exact ⟨rfl, rfl⟩
  | refused r => exact ⟨rfl, rfl⟩

theorem list_due {c : CommandLine} (h : CommandLine.parse tokens = .ok c) (hl : c.list = true) :
    ((run w tokens).exit, (run w tokens).calls) = due w tokens ∧
      (run w tokens).calls = [.listed] := by
  obtain ⟨hc, hk⟩ := Work.ofListing_spec w.colour w.ports
  rw [run_accepted h, CommandLine.work_list hl]
  simp only [due, h, hl, if_true, Outcome.ofWork, hc, and_true]
  rw [← hk]

/-- Without a list the work of a command line is that of its settings, if it has any. -/
theorem switch_due {c : CommandLine} (h : CommandLine.parse tokens = .ok c) (hl : c.list = false) :
    ((run w tokens).exit, (run w tokens).calls) = due w tokens ∧ (run w tokens).output = "" ∧
      .listed ∉ (run w tokens).calls := by
  rw [run_accepted h]
  simp only [due, h, hl, Bool.false_eq_true, if_false]
  cases hs : c.settings w.files with
  | error e =>
    rw [CommandLine.work_unloaded hl hs]
    exact ⟨rfl, rfl, List.not_mem_nil⟩
  | ok s =>
    obtain ⟨hc, ho, hk⟩ := Task.perform_switch w s
    rw [CommandLine.work_switch hl hs]
    simp only [Outcome.ofWork, hc, ho, true_and]
    exact ⟨by rw [← hk], s.listed_not_mem_calls w.faults⟩

/-- No process both lists ports and opens one. -/
theorem opened_not_mem_of_listed (h : .listed ∈ (run w tokens).calls) (path : String) (rate : Rate)
    (timeout : Option Duration) : .opened path rate timeout ∉ (run w tokens).calls := by
  intro hm
  cases hp : CommandLine.parse tokens with
  | error reply =>
    rw [(answered_due hp).2] at h
    cases h
  | ok c =>
    cases hl : c.list with
    | true =>
      rw [(list_due hp hl).2] at hm
      cases List.mem_singleton.mp hm
    | false => exact (switch_due hp hl).2.2 h

/-- Exit code and calls are as due. Nothing is printed by a switch or beside a refusal, settings are
missing only for want of the file, and no process both lists ports and opens one. -/
theorem run_due (w : World) (tokens : List String) :
    ((run w tokens).exit, (run w tokens).calls) = due w tokens ∧
    (∀ c, CommandLine.parse tokens = .ok c → c.list = false → (run w tokens).output = "") ∧
    (∀ r, CommandLine.parse tokens = .error (.refused r) → (run w tokens).output = "") ∧
    (∀ c : CommandLine, (∃ e, c.settings w.files = .error e) ↔
      ∃ path e, c.config = some path ∧ Config.load w.files path = .error e) ∧
    (.listed ∈ (run w tokens).calls → ∀ path rate timeout,
      .opened path rate timeout ∉ (run w tokens).calls) := by
  refine ⟨?_, ?_, ?_, fun c => c.settings_error_iff w.files, opened_not_mem_of_listed⟩
  · cases h : CommandLine.parse tokens with
    | error reply => exact (answered_due h).1
    | ok c =>
      cases hl : c.list with
      | true => exact (list_due h hl).1
      | false => exact (switch_due h hl).1
  · intro c h hl
    exact (switch_due h hl).2.1
  · intro r h
    rw [run_answered h]
    rfl

end Program
end MagicBaud

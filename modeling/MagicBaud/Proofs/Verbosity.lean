import MagicBaud.Proofs.Telling

namespace MagicBaud

/-- What is left of an outcome without all that the logger writes. -/
def Outcome.unlogged (o : Outcome) : Outcome := { o with ignored := [], records := [] }

theorem Outcome.unlogged_ofWork (spec spec' : String) (k : Work) :
    (ofWork spec k).unlogged = (ofWork spec' k).unlogged :=
  rfl

namespace CommandLine
variable {w : World} {c c' : CommandLine}

theorem work_logSpec (w : World) (l : Option String) (c : CommandLine) :
    c.work { w with logSpec := l } = c.work w := by
  unfold work
  cases c.task w.files with
  | error failure => rfl
  | ok task => cases task <;> rfl

/-- Command lines that differ only in how verbose they are ask for the same work. -/
theorem work_eq (h : { c with verbose := c'.verbose } = c') : c.work w = c'.work w := by
  rw [← h]
  rfl

theorem logSpec_of_isSome {spec : Option String} (h : spec.isSome = true) (c c' : CommandLine) :
    c.logSpec spec = c'.logSpec spec := by
  obtain ⟨text, rfl⟩ := Option.isSome_iff_exists.mp h
  rfl

end CommandLine

namespace Program
variable {w : World} {tokens tokens' : List String} {c c' : CommandLine}

theorem unlogged_accepted (h : CommandLine.parse tokens = .ok c) (l : Option String) :
    (run { w with logSpec := l } tokens).unlogged = (Outcome.ofWork "" (c.work w)).unlogged := by
  rw [run_accepted h, c.work_logSpec w l]
  exact Outcome.unlogged_ofWork _ _ _

theorem unlogged_answered {reply : CommandLine.Reply}
    (h : CommandLine.parse tokens = .error reply) (l l' : Option String) :
    (run { w with logSpec := l } tokens).unlogged =
      (run { w with logSpec := l' } tokens).unlogged := by
  rw [run_answered h, run_answered h]

theorem told_eq (h : CommandLine.parse tokens = .ok c) (h' : CommandLine.parse tokens' = .ok c')
    (hc : { c with verbose := c'.verbose } = c') : told w tokens = told w tokens' := by
  rw [told_accepted h, told_accepted h', CommandLine.work_eq hc]

/-- A verbose run shows everything, and another one all but the details of it. -/
theorem records_verbose (h : CommandLine.parse tokens = .ok c) (hw : w.logSpec = none)
    (hv : c.verbose = true) : (run w tokens).records = told w tokens := by
  rw [records_unset h hw, hv]
  exact List.filter_eq_self.mpr fun _ _ => rfl

theorem records_plain (h : CommandLine.parse tokens = .ok c) (hw : w.logSpec = none)
    (hv : c.verbose = false) :
    (run w tokens).records = (told w tokens).filter (·.level ≠ .debug) := by
  rw [records_unset h hw, hv]
  rfl

/-- How much is logged changes nothing else. Whatever the filter is, and whether or not the command
line is verbose, the outcome is the same but for what the logger writes. A filter that is set takes
no notice of the flag. One that is not set keeps back the details, and nothing else, of a command
line that is not verbose. No record is made up or told out of turn. -/
theorem run_unlogged :
    (∀ (w : World) (l l' : Option String) (tokens : List String),
      (run { w with logSpec := l } tokens).unlogged =
        (run { w with logSpec := l' } tokens).unlogged) ∧
    (∀ (w : World) (tokens tokens' : List String) (c c' : CommandLine),
      CommandLine.parse tokens = .ok c → CommandLine.parse tokens' = .ok c' →
      { c with verbose := c'.verbose } = c' →
        (∀ l l' : Option String, (run { w with logSpec := l } tokens).unlogged =
          (run { w with logSpec := l' } tokens').unlogged) ∧
        (w.logSpec.isSome = true → run w tokens = run w tokens') ∧
        (w.logSpec = none → c.verbose = true → c'.verbose = false →
          (run w tokens).records.filter (·.level ≠ .debug) = (run w tokens').records)) ∧
    ∀ (w : World) (tokens : List String), (run w tokens).records.Sublist (told w tokens) := by
  refine ⟨?_, ?_, records_sublist⟩
  · intro w l l' tokens
    cases h : CommandLine.parse tokens with
    | error reply => exact unlogged_answered h l l'
    | ok c => rw [unlogged_accepted h, unlogged_accepted h]
  · intro w tokens tokens' c c' h h' hc
    refine ⟨?_, ?_, ?_⟩
    · intro l l'
      rw [unlogged_accepted h, unlogged_accepted h', CommandLine.work_eq hc]
    · intro hs
      rw [run_accepted h, run_accepted h', CommandLine.work_eq hc,
        CommandLine.logSpec_of_isSome hs c c']
    · intro hw hv hv'
      rw [records_verbose h hw hv, records_plain h' hw hv', told_eq h h' hc]

/-- A device that goes away halfway, with nothing set, with an empty filter and with a filter that
makes no sense. -/
theorem run_unlogged_halfway :
    let gone : FaultPlan := fun i => if i = 1 then some ⟨.noDevice, "gone"⟩ else none
    let w : World :=
      { files := fun _ => .error .notFound, logSpec := none, ports := .ok [], faults := gone }
    let tokens := ["-v", "listen", "COM3"]
    let tokens' := ["listen", "COM3"]
    (run w tokens).records.length = 4 ∧
      (run w tokens).records.filter (·.level ≠ .debug) = (run w tokens').records ∧
      run { w with logSpec := some "" } tokens = run { w with logSpec := some "" } tokens' ∧
      (run { w with logSpec := some "=,/(" } tokens).unlogged =
        (run { w with logSpec := none } tokens').unlogged := by
  intro gone w tokens tokens'
  have h : CommandLine.parse tokens =
      .ok { layer := { rate := some ⟨28800, by decide⟩, port := some "COM3" }, verbose := true } :=
    rfl
  have h' : CommandLine.parse tokens' =
      .ok { layer := { rate := some ⟨28800, by decide⟩, port := some "COM3" } } := rfl
  have hu := run_unlogged.2.1 w tokens tokens' _ _ h h' rfl
  have hs := run_unlogged.2.1 { w with logSpec := some "" } tokens tokens' _ _ h h' rfl
  refine ⟨?_, hu.2.2 rfl rfl rfl, hs.2.1 rfl, hu.1 _ _⟩
  rw [records_verbose h rfl rfl]
  rfl

end Program
end MagicBaud

import MagicBaud.Proofs.Messages
import MagicBaud.Proofs.Telling

namespace MagicBaud

/-- What could not be done with the file. -/
def Config.LoadError.failed : LoadError → String
  | .unreadable .. => "failed to read config file "
  | .unusable .. => "failed to parse config file "

theorem Config.message_of_load_error {files : Files} {path : String} {e : LoadError}
    (h : load files path = .error e) : e.message = e.failed ++ path := by
  unfold load at h
  cases hf : files path with
  | error cause =>
    rw [hf] at h
    cases h
    rfl
  | ok text =>
    simp only [hf] at h
    cases ht : ofText text with
    | error fault =>
      rw [ht] at h
      cases h
      rfl
    | ok l =>
      rw [ht] at h
      cases h

theorem Work.ofRun_result {σ η : Type} (s : Settings) (r : Run σ η OpenError) (calls : List Call) :
    (Work.ofRun s r calls).result = r.result.mapError .switching := by
  unfold Work.ofRun
  cases hr : r.result with
  | ok _ => rfl
  | error e => rfl

/-- A switch ends as its account says. -/
theorem Task.perform_result (w : World) (s : Settings) :
    ((Task.switch s).perform w).result =
      (s.toSwitch.account w.faults openLimit 0).result.mapError .switching := by
  obtain ⟨hr, _⟩ := Switch.run_account (Opener.system_follows w.faults) s.toSwitch {}
  refine (Work.ofRun_result s _ _).trans ?_
  rw [hr]
  rfl

namespace Program

/-- Both openings went well, all four calls were made, and the last record alone says so. -/
def WentThrough (w : World) (c : CommandLine) (o : Outcome) : Prop :=
  ∃ s, c.settings w.files = .ok s ∧ w.faults 0 = none ∧ w.faults 1 = none ∧
    o.calls = [.opened s.port s.target openLimit, .closed 0,
      .opened s.port s.neutral openLimit, .closed 1] ∧
    o.exit = 0 ∧ o.failure = none ∧
    ∃ details, o.records = details ++ [s.success] ∧ ∀ r ∈ details, r.level ≠ .info

/-- An opening failed. The report gives the rate of just that opening and what the hardware said. -/
def WasRefused (w : World) (c : CommandLine) (o : Outcome) : Prop :=
  ∃ s rate fault, c.settings w.files = .ok s ∧
    (w.faults 0 = some fault ∧ rate = s.target ∧
        o.calls = [.opened s.port s.target openLimit] ∨
      w.faults 0 = none ∧ w.faults 1 = some fault ∧ rate = s.neutral ∧
        o.calls = [.opened s.port s.target openLimit, .closed 0,
          .opened s.port s.neutral openLimit]) ∧
    o.exit = 1 ∧ (∀ r ∈ o.records, r.level ≠ .info) ∧
    o.failure.map Failure.chain =
      some ["Baud switch on " ++ s.port ++ " failed",
        "failed to open " ++ s.port ++ " at " ++ rate.text ++ " baud", fault.message]

/-- The file could not be loaded, which the report begins with, and nothing was done. -/
def WasUnloaded (w : World) (c : CommandLine) (o : Outcome) : Prop :=
  ∃ path e failure, c.config = some path ∧ Config.load w.files path = .error e ∧
    o.calls = [] ∧ o.exit = 1 ∧ (∀ r ∈ o.records, r.level ≠ .info) ∧
    o.failure = some failure ∧
    failure.chain.head? = some (e.failed ++ path)

variable {w : World} {tokens : List String} {c : CommandLine} {s : Settings} {o : Outcome}

theorem WentThrough.exit (h : WentThrough w c o) : o.exit = 0 := by
  obtain ⟨_, _, _, _, _, he, _⟩ := h
  exact he

theorem WasRefused.exit (h : WasRefused w c o) : o.exit = 1 := by
  obtain ⟨_, _, _, _, _, he, _⟩ := h
  exact he

theorem WasRefused.calls_ne_nil (h : WasRefused w c o) : o.calls ≠ [] := by
  obtain ⟨_, _, _, _, ⟨_, _, hc⟩ | ⟨_, _, _, hc⟩, _⟩ := h
  · exact hc ▸ List.cons_ne_nil _ _
  · exact hc ▸ List.cons_ne_nil _ _

theorem WasUnloaded.exit (h : WasUnloaded w c o) : o.exit = 1 := by
  obtain ⟨_, _, _, _, _, _, he, _⟩ := h
  exact he

theorem WasUnloaded.calls (h : WasUnloaded w c o) : o.calls = [] := by
  obtain ⟨_, _, _, _, _, hc, _⟩ := h
  exact hc

/-- What a switch tells, its success included if there is one. -/
theorem told_switch (h : CommandLine.parse tokens = .ok c) (hl : c.list = false)
    (hs : c.settings w.files = .ok s) :
    ∃ details : List Log.Record, (∀ r ∈ details, r.level = .debug) ∧
      told w tokens = details ++
        if (w.faults 0).isNone && (w.faults 1).isNone then [s.success] else [] := by
  refine ⟨(s.toSwitch.run (Opener.system w.faults) {}).records,
    fun r hr => Switch.debug_of_mem_records hr, ?_⟩
  rw [told_accepted h, CommandLine.work_switch hl hs]
  refine (Work.ofRun_records s _ _).trans ?_
  rw [s.run_isOk]

/-- Where no filter is set, the success is shown behind details, and details are all else. -/
theorem records_switch (h : CommandLine.parse tokens = .ok c) (hw : w.logSpec = none)
    (hl : c.list = false) (hs : c.settings w.files = .ok s) :
    ∃ details : List Log.Record, (∀ r ∈ details, r.level ≠ .info) ∧
      (run w tokens).records = details ++
        if (w.faults 0).isNone && (w.faults 1).isNone then [s.success] else [] := by
  obtain ⟨details, hd, ht⟩ := told_switch h hl hs
  refine ⟨details.filter (fun r => c.verbose || decide (r.level ≠ .debug)), ?_, ?_⟩
  · intro r hr
    rw [hd r (List.mem_filter.mp hr).1]
    decide
  · rw [records_unset h hw, ht, List.filter_append]
    congr 1
    split
    · have hk : s.success.level ≠ .debug := fun he => nomatch he
      simp [hk]
    · rfl

/-- Exit code, calls and failure of a switch, as its account has them. -/
theorem run_switch (h : CommandLine.parse tokens = .ok c) (hl : c.list = false)
    (hs : c.settings w.files = .ok s) :
    let a := s.toSwitch.account w.faults openLimit 0
    (run w tokens).calls = a.calls ∧ (run w tokens).exit = (if a.result.isOk then 0 else 1) ∧
      (run w tokens).failure = match a.result with
        | .ok _ => none
        | .error e => some (.switching e) := by
  intro a
  have hr : ((Task.switch s).perform w).result = a.result.mapError .switching :=
    Task.perform_result w s
  rw [run_accepted h, CommandLine.work_switch hl hs]
  refine ⟨?_, ?_, ?_⟩
  · exact (Task.perform_switch w s).1.trans (s.calls_eq w.faults)
  · simp only [Outcome.ofWork, hr]
    cases a.result <;> rfl
  · simp only [Outcome.ofWork, Work.failure?, hr]
    cases a.result <;> rfl

theorem wentThrough_of_ok (h : CommandLine.parse tokens = .ok c) (hw : w.logSpec = none)
    (hl : c.list = false) (hs : c.settings w.files = .ok s) (h0 : w.faults 0 = none)
    (h1 : w.faults 1 = none) : WentThrough w c (run w tokens) := by
  obtain ⟨details, hd, hr⟩ := records_switch h hw hl hs
  obtain ⟨hc, he, hf⟩ := run_switch h hl hs
  simp only [Switch.account, h0, h1] at hc he hf
  simp only [h0, h1] at hr
  exact ⟨s, hs, h0, h1, hc, he, hf, details, hr, hd⟩

theorem wasRefused_of_first {fault : Fault} (h : CommandLine.parse tokens = .ok c)
    (hw : w.logSpec = none) (hl : c.list = false) (hs : c.settings w.files = .ok s)
    (h0 : w.faults 0 = some fault) : WasRefused w c (run w tokens) := by
  obtain ⟨details, hd, hr⟩ := records_switch h hw hl hs
  obtain ⟨hc, he, hf⟩ := run_switch h hl hs
  simp only [Switch.account, h0] at hc he hf
  simp only [h0, Option.isNone_some, Bool.false_and, Bool.false_eq_true, if_false,
    List.append_nil] at hr
  refine ⟨s, s.target, fault, hs, .inl ⟨h0, rfl, hc⟩, he, hr ▸ hd, ?_⟩
  rw [hf]
  rfl

theorem wasRefused_of_second {fault : Fault} (h : CommandLine.parse tokens = .ok c)
    (hw : w.logSpec = none) (hl : c.list = false) (hs : c.settings w.files = .ok s)
    (h0 : w.faults 0 = none) (h1 : w.faults 1 = some fault) : WasRefused w c (run w tokens) := by
  obtain ⟨details, hd, hr⟩ := records_switch h hw hl hs
  obtain ⟨hc, he, hf⟩ := run_switch h hl hs
  simp only [Switch.account, h0, h1] at hc he hf
  simp only [h0, h1, Option.isNone_none, Option.isNone_some, Bool.and_false, Bool.false_eq_true,
    if_false, List.append_nil] at hr
  refine ⟨s, s.neutral, fault, hs, .inr ⟨h0, h1, rfl, hc⟩, he, hr ▸ hd, ?_⟩
  rw [hf]
  rfl

theorem wasUnloaded_of_error {e : Config.LoadError} (h : CommandLine.parse tokens = .ok c)
    (hl : c.list = false) (he : c.settings w.files = .error e) :
    WasUnloaded w c (run w tokens) := by
  obtain ⟨path, hc, hp⟩ := CommandLine.settings_eq_error he
  rw [run_accepted h, CommandLine.work_unloaded hl he]
  refine ⟨path, e, .config e, hc, hp, rfl, rfl, fun r hr => (nomatch hr), rfl, ?_⟩
  exact congrArg some (Config.message_of_load_error hp)

/-- Nothing is told as a success but a switch that went through. -/
theorem through_of_info {r : Log.Record} (hr : r ∈ (run w tokens).records) (hi : r.level = .info) :
    ∃ s : Settings, r = s.success ∧ w.faults 0 = none ∧ w.faults 1 = none ∧
      (run w tokens).calls = [.opened s.port s.target openLimit, .closed 0,
        .opened s.port s.neutral openLimit, .closed 1] := by
  rcases mem_told ((records_sublist w tokens).subset hr) with hd | ⟨c, s, h, hl, hs, hk, rfl⟩
  · cases hd.symm.trans hi
  · rw [s.run_isOk] at hk
    obtain ⟨h0, h1⟩ := Bool.and_eq_true_iff.mp hk
    have hc := (run_switch h hl hs).1
    rw [Option.isNone_iff_eq_none] at h0 h1
    simp only [Switch.account, h0, h1] at hc
    exact ⟨s, rfl, h0, h1, hc⟩

/-- The verdict agrees with the hardware. Where no filter is set, a process that is to switch ends
in just one of three ways, and what it tells, its report and its exit code are those of that end.
With any filter a success is told only when all four calls were made. The records and the chain of
the report are what is written for the user, one behind the other. -/
theorem run_verdict :
    (∀ (w : World) (tokens : List String) (c : CommandLine), CommandLine.parse tokens = .ok c →
      c.list = false → w.logSpec = none →
      let o := run w tokens
      (WentThrough w c o ∨ WasRefused w c o ∨ WasUnloaded w c o) ∧
        ¬(WentThrough w c o ∧ WasRefused w c o) ∧ ¬(WentThrough w c o ∧ WasUnloaded w c o) ∧
        ¬(WasRefused w c o ∧ WasUnloaded w c o)) ∧
    (∀ (w : World) (tokens : List String) (r : Log.Record), r ∈ (run w tokens).records →
      r.level = .info →
      ∃ s : Settings, r = s.success ∧ w.faults 0 = none ∧ w.faults 1 = none ∧
        (run w tokens).calls = [.opened s.port s.target openLimit, .closed 0,
          .opened s.port s.neutral openLimit, .closed 1]) ∧
    ∀ (w : World) (tokens : List String),
      Text.InTurn (run w tokens).told (run w tokens).messages := by
  refine ⟨?_, fun w tokens r hr hi => through_of_info hr hi,
    fun w tokens => (run w tokens).messages_inTurn⟩
  intro w tokens c h hl hw o
  refine ⟨?_, ?_, ?_, ?_⟩
  · cases hs : c.settings w.files with
    | error e => exact .inr (.inr (wasUnloaded_of_error h hl hs))
    | ok s =>
      cases h0 : w.faults 0 with
      | some fault => exact .inr (.inl (wasRefused_of_first h hw hl hs h0))
      | none =>
        cases h1 : w.faults 1 with
        | some fault => exact .inr (.inl (wasRefused_of_second h hw hl hs h0 h1))
        | none => exact .inl (wentThrough_of_ok h hw hl hs h0 h1)
  · rintro ⟨ht, hr⟩
    exact Nat.zero_ne_one (ht.exit.symm.trans hr.exit)
  · rintro ⟨ht, hu⟩
    exact Nat.zero_ne_one (ht.exit.symm.trans hu.exit)
  · rintro ⟨hr, hu⟩
    exact hr.calls_ne_nil hu.calls

/-- A device that goes away between the openings, and one that stays. -/
theorem run_verdict_halfway :
    let gone : FaultPlan := fun i => if i = 1 then some ⟨.noDevice, "gone"⟩ else none
    let w : World :=
      { files := fun _ => .error .notFound, logSpec := none, ports := .ok [], faults := gone }
    let tokens := ["dfu", "COM3", "--neutral-baud", "touch"]
    let c : CommandLine :=
      { layer := { port := some "COM3", rate := some ⟨14400, by decide⟩,
                   neutral := some ⟨1200, by decide⟩ } }
    WasRefused w c (run w tokens) ∧
      (run w tokens).failure.map Failure.chain =
        some ["Baud switch on COM3 failed", "failed to open COM3 at 1200 baud", "gone"] ∧
      Text.InTurn ["Baud switch on COM3 failed", "failed to open COM3 at 1200 baud", "gone"]
        (run w tokens).messages ∧
      (run { w with faults := fun _ => none } tokens).calls.length = 4 := by
  intro gone w tokens c
  have h : CommandLine.parse tokens = .ok c := rfl
  have hr : WasRefused w c (run w tokens) := by
    rcases (run_verdict.1 w tokens c h rfl rfl).1 with ht | hr | hu
    · cases ht.exit
    · exact hr
    · cases hu.calls
  let w' : World := { w with faults := fun _ => none }
  let s : Settings := ⟨"COM3", ⟨14400, by decide⟩, ⟨1200, by decide⟩, Duration.zero⟩
  have hm : s.success ∈ (run w' tokens).records := by
    rw [records_unset h rfl]
    exact List.mem_filter.mpr ⟨.tail _ (.tail _ (.tail _ (.tail _ (.tail _ (.head _))))), rfl⟩
  obtain ⟨_, _, _, _, hc⟩ := run_verdict.2.1 w' tokens s.success hm rfl
  have hrecords : (run w tokens).records = [] := (records_unset h rfl).trans rfl
  have hignored : (run w tokens).ignored = [] := by
    have hspec : c.logSpec w.logSpec = "info" := rfl
    rw [run_accepted h, Outcome.ofWork, hspec, Log.Filter.parse_info]
  have hrefusal : (run w tokens).refusal = none := rfl
  have hfailure : (run w tokens).failure =
      some (.switching ⟨"COM3", ⟨1200, by decide⟩, ⟨.noDevice, "gone"⟩⟩) := rfl
  have ht : (run w tokens).told =
      ["Baud switch on COM3 failed", "failed to open COM3 at 1200 baud", "gone"] := by
    rw [Outcome.told, hrefusal, hignored, hrecords, hfailure]
    decide
  exact ⟨hr, rfl, ht ▸ run_verdict.2.2 w tokens, congrArg List.length hc⟩

end Program
end MagicBaud

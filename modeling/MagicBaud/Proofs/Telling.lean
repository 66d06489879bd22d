import MagicBaud.Proofs.Course
import MagicBaud.Proofs.Process

namespace MagicBaud

namespace Log.Filter

/-- Lets through what is not more detailed than the level. -/
def upTo (most : Level) : Filter := { directives := [⟨none, .upTo most⟩] }

theorem parse_info : parse "info" = ([], upTo .info) := rfl

theorem parse_debug : parse "debug" = ([], upTo .debug) := rfl

theorem shows_upTo (most : Level) (r : Record) :
    (upTo most).shows r = decide (r.level.detail ≤ most.detail) := by
  have hd : (upTo most).decisive? r.target = some ⟨none, .upTo most⟩ := by
    simp only [decisive?, upTo, List.mergeSort_singleton]
    rfl
  have hp : (upTo most).pattern = none := rfl
  simp only [shows, admits, hd, hp, Option.any_some, Option.all_none, Threshold.admits,
    Bool.and_true]

end Log.Filter

/-- The level at which the event is told is that of details, if it is told at all. -/
def Event.isDetail {η ε : Type} (e : Event η ε) : Bool := e.notice?.all (·.level = .debug)

namespace Switch
variable {σ η ε : Type} {o : Opener σ η ε} {w : Switch} {s : σ}

theorem waits_isDetail (w : Switch) : (w.waits : List (Event η ε)).all Event.isDetail = true := by
  unfold waits
  split
  · rfl
  · rfl

theorem Course.isDetail {r : Run σ η ε} (h : Course o w s r) :
    r.events.all Event.isDetail = true := by
  cases h with
  | refused first => rfl
  | halfway first second =>
    simp only [List.all_cons, List.all_append, waits_isDetail]
    rfl
  | through first second =>
    simp only [List.all_cons, List.all_append, waits_isDetail]
    rfl

/-- A switch tells details only, however it ends. -/
theorem debug_of_mem_records {r : Log.Record} (h : r ∈ (w.run o s).records) :
    r.level = .debug := by
  obtain ⟨n, hn, rfl⟩ := List.mem_map.mp h
  obtain ⟨e, he, hne⟩ := List.mem_filterMap.mp hn
  have hd := List.all_eq_true.mp (run_course o w s).isDetail e he
  rw [Event.isDetail, hne] at hd
  exact of_decide_eq_true hd

end Switch

/-- What is told of a switch that went through. -/
def Settings.success (s : Settings) : Log.Record where
  level := .info
  target := "serial_switcher"
  text := s.port ++ " switched via " ++ s.target.text ++ " baud, left at " ++ s.neutral.text

namespace Program

/-- All that a process has to tell, in order: what the switch tells, and its success at the end. -/
def told (w : World) (tokens : List String) : List Log.Record :=
  match CommandLine.parse tokens with
  | .error _ => []
  | .ok c =>
    if c.list then []
    else
      match c.settings w.files with
      | .error _ => []
      | .ok s =>
        let r := s.toSwitch.run (Opener.system w.faults) {}
        r.records ++ if r.result.isOk then [s.success] else []

end Program

/-- The records of work, before any is kept back. -/
def Work.records (k : Work) : List Log.Record := k.notices.map Notice.record

theorem Work.ofRun_records {σ η : Type} (s : Settings) (r : Run σ η OpenError) (calls : List Call) :
    (Work.ofRun s r calls).records = r.records ++ if r.result.isOk then [s.success] else [] := by
  unfold Work.ofRun Work.records
  cases hr : r.result with
  | ok _ => exact List.map_append
  | error e => exact (List.append_nil _).symm

theorem Work.ofListing_records (colour : Bool) (ports : Except Fault (List Port)) :
    (Work.ofListing colour ports).records = [] := by
  cases ports with
  | ok ports => rfl
  | error fault => rfl

namespace Program
variable {w : World} {tokens : List String} {c : CommandLine}

theorem told_accepted (h : CommandLine.parse tokens = .ok c) :
    told w tokens = (c.work w).records := by
  unfold told
  rw [h]
  cases hl : c.list with
  | true =>
    rw [CommandLine.work_list hl, Work.ofListing_records]
    simp only [hl, if_true]
  | false =>
    simp only [hl, Bool.false_eq_true, if_false]
    cases hs : c.settings w.files with
    | error e =>
      rw [CommandLine.work_unloaded hl hs]
      rfl
    | ok s =>
      rw [CommandLine.work_switch hl hs]
      exact (Work.ofRun_records s _ _).symm

/-- The records are those to be told that the filter shows. -/
theorem records_accepted (h : CommandLine.parse tokens = .ok c) :
    (run w tokens).records =
      (told w tokens).filter (Log.Filter.parse (c.logSpec w.logSpec)).2.shows := by
  rw [run_accepted h, told_accepted h]
  rfl

theorem records_answered {reply : CommandLine.Reply} (h : CommandLine.parse tokens = .error reply) :
    (run w tokens).records = [] := by
  rw [run_answered h]
  cases reply with
  | help detailed => rfl
  | version => rfl
  | refused r => rfl

/-- What is shown is a part of what is to be told, in its order. -/
theorem records_sublist (w : World) (tokens : List String) :
    (run w tokens).records.Sublist (told w tokens) := by
  cases h : CommandLine.parse tokens with
  | error reply =>
    rw [records_answered h]
    exact List.nil_sublist _
  | ok c =>
    rw [records_accepted h]
    exact List.filter_sublist

/-- Every record that is to be told is a detail, or the success of a switch that went through. -/
theorem mem_told {r : Log.Record} (h : r ∈ told w tokens) :
    r.level = .debug ∨
      ∃ c s, CommandLine.parse tokens = .ok c ∧ c.list = false ∧ c.settings w.files = .ok s ∧
        (s.toSwitch.run (Opener.system w.faults) {}).result.isOk = true ∧ r = s.success := by
  unfold told at h
  split at h
  · cases h
  rename_i c hc
  split at h
  · cases h
  rename_i hl
  split at h
  · cases h
  rename_i s hs
  rcases List.mem_append.mp h with hr | hr
  · exact .inl (Switch.debug_of_mem_records hr)
  · split at hr
    · rename_i hk
      have hl' : c.list = false := Bool.eq_false_iff.mpr hl
      exact .inr ⟨c, s, hc, hl', hs, hk, List.mem_singleton.mp hr⟩
    · cases hr

theorem level_of_mem_told {r : Log.Record} (h : r ∈ told w tokens) :
    r.level = .debug ∨ r.level = .info := by
  rcases mem_told h with hd | ⟨_, _, _, _, _, _, rfl⟩
  · exact .inl hd
  · exact .inr rfl

/-- Where no filter is set, a verbose command line has everything told, another one no details. -/
theorem records_unset (h : CommandLine.parse tokens = .ok c) (hw : w.logSpec = none) :
    (run w tokens).records =
      (told w tokens).filter (fun r => c.verbose || decide (r.level ≠ .debug)) := by
  rw [records_accepted h, hw]
  apply List.filter_congr
  intro r hr
  cases hv : c.verbose with
  | true =>
    have hs : c.logSpec none = "debug" := by simp [CommandLine.logSpec, hv]
    rw [hs, Log.Filter.parse_debug, Log.Filter.shows_upTo]
    rcases level_of_mem_told hr with hl | hl <;> rw [hl] <;> rfl
  | false =>
    have hs : c.logSpec none = "info" := by simp [CommandLine.logSpec, hv]
    rw [hs, Log.Filter.parse_info, Log.Filter.shows_upTo]
    rcases level_of_mem_told hr with hl | hl <;> rw [hl] <;> rfl

end Program
end MagicBaud

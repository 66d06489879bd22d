import MagicBaud.Proofs.Course
import MagicBaud.Proofs.Numerals

namespace MagicBaud
variable {σ η ε : Type}

/-- What can be watched of a run: what is logged, and what is called. -/
inductive Entry (η ε : Type) where
  | logged (r : Log.Record)
  | opened (path : String) (rate : Rate) (answer : Except ε η)
  | closed (handle : η)

def Event.entry? : Event η ε → Option (Entry η ε)
  | .noticed n => some (.logged n.record)
  | .paused _ => none
  | .opened path rate answer => some (.opened path rate answer)
  | .closed handle => some (.closed handle)

/-- The path and the rate of an opening. -/
def Entry.opening? : Entry η ε → Option (String × Rate)
  | .opened path rate _ => some (path, rate)
  | _ => none

/-- Records and calls of a run, merged in their order. -/
def Run.entries (r : Run σ η ε) : List (Entry η ε) := r.events.filterMap Event.entry?

namespace Switch

/-- A detail that the switch tells. -/
def detail (text : String) : Log.Record := ⟨.debug, "serial_switcher::switcher", text⟩

def announcement (w : Switch) : Log.Record :=
  detail ("Switching " ++ w.port ++ " to " ++ w.target.text ++ " baud, then back to " ++
    w.neutral.text)

def opening (path : String) (rate : Rate) : Log.Record :=
  detail ("Opening " ++ path ++ " at " ++ rate.text ++ " baud")

def closing (path : String) : Log.Record := detail ("Closing " ++ path)

def waiting (pause : String) : Log.Record := detail ("Waiting " ++ pause ++ " before reopening")

/-- Whether a record is one of the switch, at the level of details. -/
def IsDetail (r : Log.Record) : Prop := r.level = .debug ∧ r.target = "serial_switcher::switcher"

/-- What the log of a switch promises about the calls around its records. -/
structure Transcript (w : Switch) (es : List (Entry η ε)) : Prop where
  begins : es.head? = some (.logged w.announcement)
  details : ∀ r, .logged r ∈ es → IsDetail r
  opens : ∀ i path rate, es[i]? = some (.logged (opening path rate)) ↔
    ∃ answer, es[i + 1]? = some (.opened path rate answer)
  closes : ∀ i path, es[i]? = some (.logged (closing path)) ↔
    path = w.port ∧ ∃ handle, es[i + 1]? = some (.closed handle)
  ends : ∀ i path rate e, es[i]? = some (.opened path rate (.error e)) → es.length = i + 1

/-- There is something to wait for, and the first opening succeeds, so that a second one comes. -/
def Waits (o : Opener σ η ε) (w : Switch) (s : σ) : Prop :=
  w.settle ≠ Duration.zero ∧ ∃ handle, (o.openPort s w.port w.target).1 = .ok handle

/-- The wait is told once: behind the first closing, before the second opening is told. -/
inductive WaitsBetween (w : Switch) : List (Entry η ε) → Prop
  | intro {first later : List (Entry η ε)} {handle : η}
      (once : first.filterMap Entry.opening? = [(w.port, w.target)])
      (unclosed : ∀ handle', .closed handle' ∉ first)
      (untold : ∀ pause, .logged (waiting pause) ∉ first ++ later) :
      WaitsBetween w (first ++ .closed handle :: .logged (waiting w.settle.text) ::
        .logged (opening w.port w.neutral) :: later)

theorem WaitsBetween.told {w : Switch} {es : List (Entry η ε)} (h : w.WaitsBetween es) :
    ∃ pause, .logged (waiting pause) ∈ es := by
  obtain ⟨_, _, _⟩ := h
  exact ⟨w.settle.text, by simp⟩

/-- The letter with which the text of a record begins. -/
def letter (r : Log.Record) : Option Char := r.text.toList.head?

@[simp] theorem letter_announcement (w : Switch) : letter w.announcement = some 'S' := by
  simp [letter, announcement, detail]

@[simp] theorem letter_opening (path : String) (rate : Rate) :
    letter (opening path rate) = some 'O' := by
  simp [letter, opening, detail]

@[simp] theorem letter_closing (path : String) : letter (closing path) = some 'C' := by
  simp [letter, closing, detail]

@[simp] theorem letter_waiting (pause : String) : letter (waiting pause) = some 'W' := by
  simp [letter, waiting, detail]

theorem ne_of_letter {r r' : Log.Record} (h : letter r ≠ letter r') : r ≠ r' :=
  fun he => h (congrArg letter he)

theorem detail_inj {text text' : String} (h : detail text = detail text') : text = text' :=
  congrArg Log.Record.text h

theorem closing_inj {path path' : String} (h : closing path = closing path') : path = path' :=
  (String.append_right_inj _).mp (detail_inj h)

/-- The rate is read from the right, so that no path can pass for a part of it. -/
theorem opening_inj {path path' : String} {rate rate' : Rate}
    (h : opening path rate = opening path' rate') : path = path' ∧ rate = rate' := by
  have ht := (String.append_left_inj _).mp (detail_inj h)
  have hg : " at ".toList = " at".toList ++ [' '] := rfl
  obtain ⟨hp, hr⟩ := Rate.append_text_inj hg rfl ht
  exact ⟨(String.append_right_inj _).mp hp, hr⟩

theorem waiting_inj {pause pause' : String} (h : waiting pause = waiting pause') :
    pause = pause' :=
  (String.append_right_inj _).mp ((String.append_left_inj _).mp (detail_inj h))

/-- Only a record with its first letter can tell of the wait. -/
theorem untold {es : List (Entry η ε)} (h : ∀ r, .logged r ∈ es → letter r ≠ some 'W')
    (pause : String) : .logged (waiting pause) ∉ es :=
  fun hm => h _ hm (letter_waiting pause)

theorem isZero_iff {d : Duration} : d.isZero = true ↔ d = Duration.zero := by
  cases d
  simp [Duration.isZero, Duration.zero]

/-- An opening is told right before it is made, and so is a closing. What fails is told no more. -/
inductive Scripted (w : Switch) : List (Entry η ε) → Prop
  | nil : Scripted w []
  | aside {r : Log.Record} {es : List (Entry η ε)} (hd : IsDetail r) (ho : letter r ≠ some 'O')
      (hc : letter r ≠ some 'C') (rest : Scripted w es) : Scripted w (.logged r :: es)
  | refused {rate : Rate} {e : ε} :
      Scripted w [.logged (opening w.port rate), .opened w.port rate (.error e)]
  | granted {rate : Rate} {handle : η} {es : List (Entry η ε)} (rest : Scripted w es) :
      Scripted w (.logged (opening w.port rate) :: .opened w.port rate (.ok handle) :: es)
  | closed {handle : η} {es : List (Entry η ε)} (rest : Scripted w es) :
      Scripted w (.logged (closing w.port) :: .closed handle :: es)

namespace Scripted
variable {w : Switch} {es : List (Entry η ε)}

theorem details (h : w.Scripted es) {r : Log.Record} (hr : .logged r ∈ es) : IsDetail r := by
  induction h with
  | nil => cases hr
  | aside hd _ _ _ ih =>
    rcases List.mem_cons.mp hr with he | hr
    · exact Entry.logged.inj he ▸ hd
    · exact ih hr
  | refused =>
    rcases List.mem_cons.mp hr with he | hr
    · exact Entry.logged.inj he ▸ ⟨rfl, rfl⟩
    · simp at hr
  | granted _ ih | closed _ ih =>
    rcases List.mem_cons.mp hr with he | hr
    · exact Entry.logged.inj he ▸ ⟨rfl, rfl⟩
    · exact ih (by simpa using hr)

/-- A call never comes first. -/
theorem head_logged (h : w.Scripted es) {x : Entry η ε} (hx : es[0]? = some x) :
    ∃ r, x = .logged r := by
  cases h with
  | nil => cases hx
  | aside | refused | granted | closed => exact ⟨_, (Option.some.inj hx).symm⟩

/-- A record stands right before the calls that it tells of, and nowhere else. Induction on the
script: each of its pieces is a record alone or a record with its call. -/
theorem told_iff (h : w.Scripted es) {a : Log.Record} {P : Entry η ε → Prop}
    (record : ∀ r, ¬ P (.logged r))
    (aside : ∀ r, letter r ≠ some 'O' → letter r ≠ some 'C' → r ≠ a)
    (opens : ∀ rate answer, opening w.port rate = a ↔ P (.opened w.port rate answer))
    (closes : ∀ handle, closing w.port = a ↔ P (.closed handle)) (i : Nat) :
    es[i]? = some (.logged a) ↔ ∃ x, es[i + 1]? = some x ∧ P x := by
  have behind : ∀ {es : List (Entry η ε)} {x : Entry η ε}, w.Scripted es → x ≠ .logged a →
      (some x = some (.logged a) ↔ ∃ x, es[0]? = some x ∧ P x) := by
    intro es x hs hx
    refine ⟨fun he => absurd (Option.some.inj he) hx, ?_⟩
    rintro ⟨y, hy, hp⟩
    obtain ⟨r, rfl⟩ := hs.head_logged hy
    exact absurd hp (record r)
  have beside : ∀ {r : Log.Record} {x : Entry η ε}, (r = a ↔ P x) →
      (some (.logged r : Entry η ε) = some (.logged a) ↔ ∃ y, some x = some y ∧ P y) := by
    intro r x hr
    simp [hr]
  induction h generalizing i with
  | nil => simp
  | aside _ ho hc hs ih =>
    cases i with
    | zero => exact behind hs fun he => aside _ ho hc (Entry.logged.inj he)
    | succ i => exact ih i
  | refused =>
    match i with
    | 0 => exact beside (opens _ _)
    | 1 => exact behind .nil (by simp)
    | i + 2 => simp
  | granted hs ih =>
    match i with
    | 0 => exact beside (opens _ _)
    | 1 => exact behind hs (by simp)
    | i + 2 => exact ih i
  | closed hs ih =>
    match i with
    | 0 => exact beside (closes _)
    | 1 => exact behind hs (by simp)
    | i + 2 => exact ih i

theorem opens (h : w.Scripted es) (i : Nat) (path : String) (rate : Rate) :
    es[i]? = some (.logged (opening path rate)) ↔
      ∃ answer, es[i + 1]? = some (.opened path rate answer) := by
  rw [h.told_iff (P := fun x => ∃ answer, x = .opened path rate answer) (by simp)]
  · constructor
    · rintro ⟨x, hx, answer, rfl⟩
      exact ⟨answer, hx⟩
    · rintro ⟨answer, hx⟩
      exact ⟨_, hx, answer, rfl⟩
  · intro r ho _
    exact ne_of_letter (by simpa using ho)
  · intro rate' answer'
    constructor
    · intro he
      obtain ⟨rfl, rfl⟩ := opening_inj he
      exact ⟨answer', rfl⟩
    · rintro ⟨answer, hx⟩
      cases hx
      rfl
  · intro handle
    have hn : closing w.port ≠ opening path rate := ne_of_letter (by simp)
    simp [hn]

theorem closes (h : w.Scripted es) (i : Nat) (path : String) :
    es[i]? = some (.logged (closing path)) ↔
      path = w.port ∧ ∃ handle, es[i + 1]? = some (.closed handle) := by
  rw [h.told_iff (P := fun x => path = w.port ∧ ∃ handle, x = .closed handle) (by simp)]
  · constructor
    · rintro ⟨x, hx, hp, handle, rfl⟩
      exact ⟨hp, handle, hx⟩
    · rintro ⟨hp, handle, hx⟩
      exact ⟨_, hx, hp, handle, rfl⟩
  · intro r _ hc
    exact ne_of_letter (by simpa using hc)
  · intro rate answer
    have hn : opening w.port rate ≠ closing path := ne_of_letter (by simp)
    simp [hn]
  · intro handle
    constructor
    · intro he
      exact ⟨(closing_inj he).symm, handle, rfl⟩
    · rintro ⟨rfl, _⟩
      rfl

theorem ends (h : w.Scripted es) {i : Nat} {path : String} {rate : Rate} {e : ε}
    (hi : es[i]? = some (.opened path rate (.error e))) : es.length = i + 1 := by
  induction h generalizing i with
  | nil => cases hi
  | aside _ _ _ _ ih =>
    cases i with
    | zero => cases hi
    | succ i => exact congrArg (· + 1) (ih hi)
  | refused =>
    match i with
    | 0 => cases hi
    | 1 => rfl
    | i + 2 => cases hi
  | granted _ ih | closed _ ih =>
    match i with
    | 0 => cases hi
    | 1 => cases hi
    | i + 2 => exact congrArg (· + 2) (ih hi)

theorem announced (h : w.Scripted es) : w.Scripted (.logged w.announcement :: es) :=
  .aside ⟨rfl, rfl⟩ (by simp) (by simp) h

theorem waited (h : w.Scripted es) (pause : String) : w.Scripted (.logged (waiting pause) :: es) :=
  .aside ⟨rfl, rfl⟩ (by simp) (by simp) h

end Scripted

/-- What is logged of the wait. -/
def waitRecords (w : Switch) : List Log.Record :=
  if w.settle.isZero then [] else [waiting w.settle.text]

theorem entries_waits (w : Switch) :
    (w.waits : List (Event η ε)).filterMap Event.entry? = w.waitRecords.map .logged := by
  unfold waits waitRecords
  split
  · rfl
  · rfl

section
variable {w : Switch} {o : Opener σ η ε} {s : σ}

/-- The entries up to the first closing. -/
def firstEntries (w : Switch) (handle : η) : List (Entry η ε) :=
  [.logged w.announcement, .logged (opening w.port w.target),
    .opened w.port w.target (.ok handle), .logged (closing w.port), .closed handle]

/-- The entries of a run, as its first opening went. -/
inductive Entries (o : Opener σ η ε) (w : Switch) (s : σ) : List (Entry η ε) → Prop
  | refused {e : ε} (first : (o.openPort s w.port w.target).1 = .error e) :
      Entries o w s [.logged w.announcement, .logged (opening w.port w.target),
        .opened w.port w.target (.error e)]
  | reopened {handle : η} {later : List (Entry η ε)}
      (first : (o.openPort s w.port w.target).1 = .ok handle)
      (script : w.Scripted (.logged (opening w.port w.neutral) :: later))
      (quiet : ∀ r, .logged r ∈ later → letter r ≠ some 'W') :
      Entries o w s (w.firstEntries handle ++ w.waitRecords.map .logged ++
        .logged (opening w.port w.neutral) :: later)

theorem Course.entries {r : Run σ η ε} (h : Course o w s r) : Entries o w s r.entries := by
  cases h with
  | refused first => exact .refused (congrArg Prod.fst first)
  | halfway first second =>
    simp only [Run.entries, tries, yields, List.filterMap_cons, List.filterMap_append,
      entries_waits]
    exact .reopened (congrArg Prod.fst first) .refused (by simp [Event.entry?])
  | through first second =>
    simp only [Run.entries, tries, yields, List.filterMap_cons, List.filterMap_append,
      entries_waits]
    have hl : letter (Notice.closing w.port).record ≠ some 'W' := by
      simp [Notice.record, Notice.text, letter]
    exact .reopened (congrArg Prod.fst first) (.granted (.closed .nil)) (by simp [Event.entry?, hl])

namespace Entries
variable {es : List (Entry η ε)}

theorem scripted (h : Entries o w s es) : w.Scripted es := by
  cases h with
  | refused first => exact .announced .refused
  | reopened first script quiet =>
    unfold waitRecords
    split
    · exact .announced (.granted (.closed script))
    · exact .announced (.granted (.closed (script.waited _)))

theorem transcript (h : Entries o w s es) : w.Transcript es where
  begins := by cases h <;> rfl
  details _ hr := h.scripted.details hr
  opens := h.scripted.opens
  closes := h.scripted.closes
  ends _ _ _ _ hi := h.scripted.ends hi

theorem mem_waitRecords {pause : String} :
    waiting pause ∈ w.waitRecords ↔ w.settle ≠ Duration.zero ∧ pause = w.settle.text := by
  unfold waitRecords
  split
  · rename_i hz
    simp [isZero_iff.mp hz]
  · rename_i hz
    have hn : w.settle ≠ Duration.zero := fun he => hz (isZero_iff.mpr he)
    simp only [List.mem_singleton, ne_eq, hn, not_false_eq_true, true_and]
    exact ⟨waiting_inj, fun h => h ▸ rfl⟩

theorem firstEntries_quiet (w : Switch) (handle : η) (pause : String) :
    .logged (waiting pause) ∉ (w.firstEntries handle : List (Entry η ε)) :=
  untold (by simp [firstEntries]) pause

theorem later_quiet {later : List (Entry η ε)}
    (quiet : ∀ r, .logged r ∈ later → letter r ≠ some 'W')
    (pause : String) : .logged (waiting pause) ∉ .logged (opening w.port w.neutral) :: later :=
  untold (by simpa using quiet) pause

/-- The wait is told if there is one, and by its own text. -/
theorem waiting_mem_iff (h : Entries o w s es) {pause : String} :
    .logged (waiting pause) ∈ es ↔ Waits o w s ∧ pause = w.settle.text := by
  cases h with
  | refused first =>
    constructor
    · intro hm
      exact absurd hm (untold (by simp) pause)
    · rintro ⟨⟨_, handle, hh⟩, _⟩
      cases first.symm.trans hh
  | reopened first script quiet =>
    constructor
    · intro hm
      rcases List.mem_append.mp hm with hm | hm
      · rcases List.mem_append.mp hm with hm | hm
        · exact absurd hm (firstEntries_quiet w _ pause)
        · obtain ⟨r, hr, he⟩ := List.mem_map.mp hm
          rw [Entry.logged.inj he] at hr
          obtain ⟨hn, hp⟩ := mem_waitRecords.mp hr
          exact ⟨⟨hn, _, first⟩, hp⟩
      · exact absurd hm (later_quiet quiet pause)
    · rintro ⟨⟨hn, _⟩, hp⟩
      refine List.mem_append_left _ (List.mem_append_right _ ?_)
      exact List.mem_map_of_mem (mem_waitRecords.mpr ⟨hn, hp⟩)

theorem waiting_iff (h : Entries o w s es) :
    (∃ pause, .logged (waiting pause) ∈ es) ↔ Waits o w s :=
  ⟨fun ⟨_, hm⟩ => (h.waiting_mem_iff.mp hm).1, fun hw => ⟨_, h.waiting_mem_iff.mpr ⟨hw, rfl⟩⟩⟩

theorem waitsBetween (h : Entries o w s es) (hw : Waits o w s) : w.WaitsBetween es := by
  obtain ⟨hn, _, hh⟩ := hw
  cases h with
  | refused first => cases first.symm.trans hh
  | @reopened handle later first script quiet =>
    have hr : w.waitRecords = [waiting w.settle.text] := if_neg (mt isZero_iff.mp hn)
    rw [hr]
    let before : List (Entry η ε) := [.logged w.announcement, .logged (opening w.port w.target),
      .opened w.port w.target (.ok handle), .logged (closing w.port)]
    have hb : ∀ r, .logged r ∈ before → letter r ≠ some 'W' := by simp [before]
    have hq : ∀ r, .logged r ∈ before ++ later → letter r ≠ some 'W' := by
      intro r hm
      rcases List.mem_append.mp hm with hm | hm
      · exact hb r hm
      · exact quiet r hm
    have hbetween : w.WaitsBetween (before ++ .closed handle :: .logged (waiting w.settle.text) ::
        .logged (opening w.port w.neutral) :: later) :=
      .intro rfl (by simp [before]) (untold hq)
    exact hbetween

end Entries

/-- The records of a run are those among its entries. -/
theorem logged_mem_entries {run : Run σ η ε} {r : Log.Record} :
    .logged r ∈ run.entries ↔ r ∈ run.records := by
  simp only [Run.entries, Run.records, Run.notices, List.mem_filterMap, List.mem_map]
  constructor
  · rintro ⟨e, he, hr⟩
    cases e with
    | noticed n => exact ⟨n, ⟨_, he, rfl⟩, Entry.logged.inj (Option.some.inj hr)⟩
    | paused | opened | closed => cases hr
  · rintro ⟨n, ⟨e, he, hn⟩, rfl⟩
    cases e with
    | noticed =>
      cases hn
      exact ⟨_, he, rfl⟩
    | paused | opened | closed => cases hn

theorem waiting_mem_records {pause : String} :
    waiting pause ∈ (w.run o s).records ↔ Waits o w s ∧ pause = w.settle.text :=
  logged_mem_entries.symm.trans (run_course o w s).entries.waiting_mem_iff

theorem paused_mem_waits {d : Duration} :
    .paused d ∈ (w.waits : List (Event η ε)) ↔ w.settle ≠ Duration.zero ∧ d = w.settle := by
  unfold waits
  split
  · rename_i hz
    simp [isZero_iff.mp hz]
  · rename_i hz
    have hn : w.settle ≠ Duration.zero := fun he => hz (isZero_iff.mpr he)
    simp [hn]

/-- A run waits just where it tells so, and never for another time than the switch's. -/
theorem paused_mem_events {d : Duration} :
    .paused d ∈ (w.run o s).events ↔ Waits o w s ∧ d = w.settle := by
  have hc := run_course o w s
  generalize w.run o s = r at hc
  cases hc with
  | refused first => simp [tries, Waits, first]
  | halfway first second => simp [tries, yields, paused_mem_waits, Waits, first]
  | through first second => simp [tries, yields, paused_mem_waits, Waits, first]

/-- A course is the run. -/
theorem Course.run_eq {r : Run σ η ε} (h : Course o w s r) : w.run o s = r := by
  have hrun : w.run o s =
      ((w.toggle w.target <| w.settled <| w.toggle w.neutral <| .done (.ok ())).run o s).cons
        (.noticed (.switching w.port w.target w.neutral)) := rfl
  rw [hrun]
  cases h with
  | refused first =>
    rw [run_toggle_error first]
    rfl
  | halfway first second =>
    rw [run_toggle_ok first, run_settled, run_toggle_error second]
    rfl
  | through first second =>
    rw [run_toggle_ok first, run_settled, run_toggle_ok second]
    simp [Run.cons, Session.run]

/-- The records of some events. -/
def recordsOf (es : List (Event η ε)) : List Log.Record :=
  (es.filterMap Event.notice?).map Notice.record

/-- None of the events tells of the wait. -/
def Quiet (es : List (Event η ε)) : Prop := ∀ r ∈ recordsOf es, letter r ≠ some 'W'

theorem recordsOf_append (es es' : List (Event η ε)) :
    recordsOf (es ++ es') = recordsOf es ++ recordsOf es' := by
  simp [recordsOf]

theorem recordsOf_waits (w : Switch) : recordsOf (w.waits : List (Event η ε)) = w.waitRecords := by
  unfold waits waitRecords
  split
  · rfl
  · rfl

namespace Quiet
variable {es es' : List (Event η ε)}

theorem append (h : Quiet es) (h' : Quiet es') : Quiet (es ++ es') := by
  unfold Quiet
  rw [recordsOf_append]
  exact List.forall_mem_append.mpr ⟨h, h'⟩

theorem switching (w : Switch) :
    Quiet ([.noticed (.switching w.port w.target w.neutral)] : List (Event η ε)) := by
  simp [Quiet, recordsOf, Event.notice?, Notice.record, Notice.text, letter]

theorem tries (w : Switch) (rate : Rate) (answer : Except ε η) : Quiet (w.tries rate answer) := by
  simp [Quiet, recordsOf, Switch.tries, Event.notice?, Notice.record, Notice.text, letter]

theorem yields (w : Switch) (handle : η) : Quiet (w.yields handle : List (Event η ε)) := by
  simp [Quiet, recordsOf, Switch.yields, Event.notice?, Notice.record, Notice.text, letter]

theorem waiting_not_mem (h : Quiet es) (pause : String) : waiting pause ∉ recordsOf es :=
  fun hm => h _ hm (letter_waiting pause)

theorem erase_waiting (h : Quiet es) (h' : Quiet es') (w : Switch) :
    (recordsOf (es ++ (w.waits ++ es'))).erase (waiting w.settle.text) =
      recordsOf es ++ recordsOf es' := by
  rw [recordsOf_append, recordsOf_append, recordsOf_waits,
    List.erase_append_right _ (h.waiting_not_mem _)]
  unfold waitRecords
  split
  · rw [List.nil_append, List.erase_of_not_mem (h'.waiting_not_mem _)]
  · rw [List.singleton_append, List.erase_cons_head]

end Quiet

theorem calls_around (es es' : List (Event η ε)) (w : Switch) :
    (es ++ (w.waits ++ es')).filter Event.isCall =
      es.filter Event.isCall ++ es'.filter Event.isCall := by
  rw [List.filter_append, List.filter_append, calls_waits, List.nil_append]

/-- With another wait a run takes the same course and is told in the same way, but for the wait. -/
theorem Course.resettle {r : Run σ η ε} (h : Course o w s r) (d : Duration) :
    ∃ r', Course o { w with settle := d } s r' ∧ r'.calls = r.calls ∧ r'.result = r.result ∧
      r'.records.erase (waiting d.text) = r.records.erase (waiting w.settle.text) := by
  let w' := { w with settle := d }
  let switching : Event η ε := .noticed (.switching w.port w.target w.neutral)
  cases h with
  | @refused e _ first =>
    have hq : Quiet (switching :: w.tries w.target (.error e)) :=
      (Quiet.switching w).append (.tries w _ _)
    have erased := fun pause => List.erase_of_not_mem (hq.waiting_not_mem pause)
    exact ⟨_, .refused first, rfl, rfl, (erased _).trans (erased _).symm⟩
  | @halfway handle _ e _ first second =>
    let head := switching :: (w.tries w.target (.ok handle) ++ w.yields handle)
    let tail : List (Event η ε) := w.tries w.neutral (.error e)
    have hh : Quiet head := (Quiet.switching w).append ((Quiet.tries w _ _).append (.yields w _))
    have ht : Quiet tail := .tries w _ _
    refine ⟨_, .halfway first second, ?_, rfl, ?_⟩
    · exact (calls_around head tail w').trans (calls_around head tail w).symm
    · exact (hh.erase_waiting ht w').trans (hh.erase_waiting ht w).symm
  | @through handle _ handle' _ first second =>
    let head := switching :: (w.tries w.target (.ok handle) ++ w.yields handle)
    let tail : List (Event η ε) := w.tries w.neutral (.ok handle') ++ w.yields handle'
    have hh : Quiet head := (Quiet.switching w).append ((Quiet.tries w _ _).append (.yields w _))
    have ht : Quiet tail := (Quiet.tries w _ _).append (.yields w _)
    refine ⟨_, .through first second, ?_, rfl, ?_⟩
    · exact (calls_around head tail w').trans (calls_around head tail w).symm
    · exact (hh.erase_waiting ht w').trans (hh.erase_waiting ht w).symm

end

/-- The log of a switch is a transcript of its calls, with any opener and however it ends. The wait
is told just if there is one and the first opening succeeded, once and in its place. With another
wait nothing else changes. -/
theorem run_transcribed (o : Opener σ η ε) (w : Switch) (s : σ) :
    w.Transcript (w.run o s).entries ∧
    ((∃ pause, .logged (waiting pause) ∈ (w.run o s).entries) ↔ Waits o w s) ∧
    (w.WaitsBetween (w.run o s).entries ↔ Waits o w s) ∧
    ∀ d, let r := w.run o s
      let r' := { w with settle := d }.run o s
      r'.calls = r.calls ∧ r'.result = r.result ∧
        r'.records.erase (waiting d.text) = r.records.erase (waiting w.settle.text) := by
  have hc := run_course o w s
  have he := hc.entries
  refine ⟨he.transcript, he.waiting_iff, ⟨fun h => he.waiting_iff.mp h.told, he.waitsBetween⟩, ?_⟩
  intro d
  obtain ⟨r', hc', hr'⟩ := hc.resettle d
  rw [hc'.run_eq]
  exact hr'

end Switch
end MagicBaud

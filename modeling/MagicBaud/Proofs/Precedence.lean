import MagicBaud.CommandLine
import MagicBaud.Proofs.Fitting

namespace MagicBaud

/-- One of the values that settings consist of. -/
inductive Slot where
  | port
  | rate
  | neutral
  | settle

namespace Slot

/-- What stands in the slot. -/
def Value : Slot → Type
  | .port => String
  | .rate | .neutral => Rate
  | .settle => Duration

/-- What stands there if nothing is said. -/
def builtIn : (slot : Slot) → slot.Value
  | .port => "/dev/ttyACM0"
  | .rate => (⟨14400, Nat.le_of_ble_eq_true rfl⟩ : Rate)
  | .neutral => (⟨9600, Nat.le_of_ble_eq_true rfl⟩ : Rate)
  | .settle => Duration.zero

/-- The key for it in a document. -/
def key : Slot → String
  | .port => "port"
  | .rate => "baud"
  | .neutral => "neutral_baud"
  | .settle => "settle_ms"

/-- What a value of a document puts there. -/
def Denotes : (slot : Slot) → Toml.Value → slot.Value → Prop
  | .port => Config.DenotesText
  | .rate | .neutral => Config.DenotesRate
  | .settle => fun v d => ∃ t, Config.DenotesTime v t ∧ Duration.ofMillis t = d

end Slot

def Layer.get (l : Layer) : (slot : Slot) → Option slot.Value
  | .port => l.port
  | .rate => l.rate
  | .neutral => l.neutral
  | .settle => l.settle.map Duration.ofMillis

def Settings.get (s : Settings) : (slot : Slot) → slot.Value
  | .port => s.port
  | .rate => s.target
  | .neutral => s.neutral
  | .settle => s.settle

theorem Settings.eq_of_get {s s' : Settings} (h : ∀ slot, s.get slot = s'.get slot) : s = s' := by
  obtain ⟨port, target, neutral, settle⟩ := s
  obtain rfl : port = s'.port := h .port
  obtain rfl : target = s'.target := h .rate
  obtain rfl : neutral = s'.neutral := h .neutral
  obtain rfl : settle = s'.settle := h .settle
  rfl

/-- What is chosen among the value of the line, the value of the file and the built-in one. -/
inductive Chosen {α : Type} (builtIn : α) : Option α → Option α → α → Prop
  | line {a : α} {file : Option α} : Chosen builtIn (some a) file a
  | file {a : α} : Chosen builtIn none (some a) a
  | builtIn : Chosen builtIn none none builtIn

theorem chosen_getD {α : Type} (builtIn : α) (line file : Option α) :
    Chosen builtIn line file ((line.or file).getD builtIn) := by
  cases line with
  | some a => exact .line
  | none =>
    cases file with
    | some a => exact .file
    | none => exact .builtIn

/-- The value of the file matters only where the line has none. -/
theorem Chosen.unique {α : Type} {builtIn a b : α} {line file file' : Option α}
    (h : Chosen builtIn line file a) (h' : Chosen builtIn line file' b)
    (hf : line = none → file = file') : a = b := by
  cases h with
  | line =>
    cases h'
    rfl
  | file =>
    cases hf rfl
    cases h'
    rfl
  | builtIn =>
    cases hf rfl
    cases h'
    rfl

theorem Layer.chosen (line file : Layer) (slot : Slot) :
    Chosen slot.builtIn (line.get slot) (file.get slot) ((line.or file).resolve.get slot) := by
  cases slot with
  | port | rate | neutral => exact chosen_getD _ _ _
  | settle =>
    have h := chosen_getD Duration.zero (line.settle.map .ofMillis) (file.settle.map .ofMillis)
    rw [← Option.map_or, show Duration.zero = .ofMillis .zero from rfl, Option.getD_map] at h
    exact h

theorem rel_map {α β γ : Type} {R : α → β → Prop} {x : Option α} {y : Option β} (f : β → γ)
    (h : Option.Rel R x y) : Option.Rel (fun a c => ∃ b, R a b ∧ f b = c) x (y.map f) := by
  cases h with
  | none => exact .none
  | some h => exact .some ⟨_, h, rfl⟩

/-- A layer holds in each slot what the document says under its key. -/
theorem Config.Holds.rel_get {l : Layer} {es : Toml.Entries} (h : Config.Holds l es) (slot : Slot) :
    Option.Rel slot.Denotes (es.get? slot.key) (l.get slot) := by
  cases slot with
  | port => exact h.port
  | rate => exact h.rate
  | neutral => exact h.neutral
  | settle => exact rel_map Duration.ofMillis h.settle

namespace CommandLine

/-- The layer of the file behind a command line, which is empty if none is named. -/
inductive Backed (files : Files) (c : CommandLine) : Layer → Prop
  | unnamed (h : c.config = none) : Backed files c Layer.empty
  | loaded {path : String} {file : Layer} (h : c.config = some path)
      (hl : Config.load files path = .ok file) : Backed files c file

variable {files files' : Files} {c c' : CommandLine} {file file' : Layer}

theorem Backed.settings_eq (h : c.Backed files file) :
    c.settings files = .ok (c.layer.or file).resolve := by
  cases h with
  | unnamed h =>
    simp only [settings, fileLayer, h]
    rfl
  | loaded h hl =>
    simp only [settings, fileLayer, h, hl]
    rfl

/-- Only the path matters to what stands behind a line. -/
theorem Backed.congr (h : c.Backed files file) (hc : c'.config = c.config) :
    c'.Backed files file := by
  cases h with
  | unnamed h => exact .unnamed (hc.trans h)
  | loaded h hl => exact .loaded (hc.trans h) hl

theorem settings_of_load_error {path : String} {e : Config.LoadError} (h : c.config = some path)
    (hl : Config.load files path = .error e) : c.settings files = .error e := by
  simp only [settings, fileLayer, h, hl]
  rfl

/-- A slot of the settings depends on the same slot of the line, and on that of the file at most if
the line says nothing. -/
theorem Backed.get_eq (h : c.Backed files file) (h' : c'.Backed files' file') {s s' : Settings}
    (hs : c.settings files = .ok s) (hs' : c'.settings files' = .ok s') {slot : Slot}
    (hline : c.layer.get slot = c'.layer.get slot)
    (hfile : c.layer.get slot = none → file.get slot = file'.get slot) :
    s.get slot = s'.get slot := by
  obtain rfl := Except.ok.inj (h.settings_eq.symm.trans hs)
  obtain rfl := Except.ok.inj (h'.settings_eq.symm.trans hs')
  have hc := c.layer.chosen file slot
  have hc' := c'.layer.chosen file' slot
  rw [← hline] at hc'
  exact hc.unique hc' hfile

/-- If the file that is named cannot be loaded, this alone is told, whatever the line gives.
Otherwise there are settings, and each of them is chosen by itself, where a loaded file has what its
document says. What a file says where the line says something is not seen, no value changes another,
and neither a listing nor more output that is asked for changes any. -/
theorem settings_chosen (files : Files) (c : CommandLine) :
    (∀ path e, c.config = some path → Config.load files path = .error e →
      c.settings files = .error e) ∧
    (∀ file : Layer, c.Backed files file → ∃ s, c.settings files = .ok s ∧
      ∀ slot, Chosen slot.builtIn (c.layer.get slot) (file.get slot) (s.get slot)) ∧
    (∀ path file, Config.load files path = .ok file →
      ∃ text es, files path = .ok text ∧ Toml.document? text = some es ∧
        ∀ slot, Option.Rel slot.Denotes (es.get? slot.key) (file.get slot)) ∧
    (∀ (files' : Files) (c' : CommandLine) (file file' : Layer),
      c.Backed files file → c'.Backed files' file' →
      (c.layer = c'.layer →
        (∀ slot, c.layer.get slot = none → file.get slot = file'.get slot) →
        ∃ s, c.settings files = .ok s ∧ c'.settings files' = .ok s) ∧
      ∀ s s' slot, c.settings files = .ok s → c'.settings files' = .ok s' →
        c.layer.get slot = c'.layer.get slot → file.get slot = file'.get slot →
        s.get slot = s'.get slot) ∧
    ∀ list verbose,
      CommandLine.settings files { c with list := list, verbose := verbose } =
        c.settings files := by
  refine ⟨fun path e => settings_of_load_error, ?_, ?_, ?_, fun _ _ => rfl⟩
  · exact fun file h => ⟨_, h.settings_eq, c.layer.chosen file⟩
  · intro path file hl
    obtain ⟨text, es, hf, ht, ho⟩ := Config.exists_document_of_load hl
    exact ⟨text, es, hf, ht, (Config.ofEntries_holds (Toml.document_distinct ht) ho).rel_get⟩
  · intro files' c' file file' h h'
    refine ⟨?_, fun s s' slot hs hs' hline hfile => h.get_eq h' hs hs' hline fun _ => hfile⟩
    intro hlines hfiles
    refine ⟨_, h.settings_eq, h'.settings_eq.trans (congrArg _ (Settings.eq_of_get fun slot => ?_))⟩
    rw [← hlines]
    exact ((c.layer.chosen file slot).unique (c.layer.chosen file' slot) (hfiles slot)).symm

/-- Two files that differ in the rate and the port, which the line gives as zero and as nothing. -/
theorem settings_chosen_overridden :
    let c : CommandLine :=
      { layer := { port := some "", rate := some ⟨0, by decide⟩ }, config := some "switch.toml" }
    let files : Files := fun _ => .ok "baud = 1\nsettle_ms = 5\n"
    let files' : Files := fun _ => .ok "settle_ms = 5\nport = \"a\"\n"
    (∃ s, c.settings files = .ok s ∧ c.settings files' = .ok s ∧ s.port = "" ∧
      s.target = ⟨0, by decide⟩ ∧ s.neutral = ⟨9600, by decide⟩ ∧ s.settle.toMillis = 5) ∧
    c.settings (fun _ => .error .notFound) = .error (.unreadable "switch.toml" .notFound) := by
  intro c files files'
  let file : Layer := { rate := some ⟨1, by decide⟩, settle := some ⟨5, by decide⟩ }
  let file' : Layer := { port := some "a", settle := some ⟨5, by decide⟩ }
  have hb : c.Backed files file := by
    have ht : Toml.document? "baud = 1\nsettle_ms = 5\n" = some
        [("baud", .integer ⟨1, by decide, by decide⟩),
          ("settle_ms", .integer ⟨5, by decide, by decide⟩)] := by
      with_unfolding_all rfl
    have hf : files "switch.toml" = .ok "baud = 1\nsettle_ms = 5\n" := rfl
    exact .loaded rfl (Config.load_document hf ht)
  have hb' : c.Backed files' file' := by
    have ht : Toml.document? "settle_ms = 5\nport = \"a\"\n" = some
        [("settle_ms", .integer ⟨5, by decide, by decide⟩), ("port", .text "a")] := by
      with_unfolding_all rfl
    have hf : files' "switch.toml" = .ok "settle_ms = 5\nport = \"a\"\n" := rfl
    exact .loaded rfl (Config.load_document hf ht)
  obtain ⟨_, hok, _, htwo, _⟩ := settings_chosen files c
  refine ⟨?_, (settings_chosen (fun _ => .error .notFound) c).1 "switch.toml" _ rfl rfl⟩
  have hagree : ∀ slot, c.layer.get slot = none → file.get slot = file'.get slot := by
    intro slot hn
    cases slot with
    | port | rate => cases hn
    | neutral | settle => rfl
  obtain ⟨s, hs, hs'⟩ := (htwo files' c file file' hb hb').1 rfl hagree
  obtain ⟨s₁, hs₁, hc⟩ := hok file hb
  obtain rfl := Except.ok.inj (hs.symm.trans hs₁)
  refine ⟨s, hs, hs', (hc .port).unique .line fun _ => rfl, (hc .rate).unique .line fun _ => rfl,
    (hc .neutral).unique .builtIn fun _ => rfl, ?_⟩
  have hsettle : s.settle = .ofMillis ⟨5, by decide⟩ :=
    (hc .settle).unique .file fun _ => rfl
  rw [hsettle]
  rfl

end CommandLine
end MagicBaud

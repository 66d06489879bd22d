import Mathlib.Data.List.Nodup
import Mathlib.Data.List.Forall2
import MagicBaud.CommandLine.Reading
import MagicBaud.Proofs.Numerals

namespace MagicBaud.CommandLine

/-- Whether a token begins as the name of an argument does. -/
def Dashed (token : String) : Prop := token.toList.head? = some '-'

instance (token : String) : Decidable (Dashed token) :=
  inferInstanceAs (Decidable (token.toList.head? = some '-'))

/-- Whether a token begins with a dash and is longer than that. -/
def OptionLike (token : String) : Prop := ∃ c cs, token.toList = '-' :: c :: cs

/-- What a command line may set under a name. -/
inductive Setting where
  | neutral (r : Rate)
  | settle (t : Millis)
  | config (path : String)
  | list
  | verbose

/-- What it may set without a name. -/
inductive Positional where
  | rate (r : Rate)
  | port (path : String)

namespace Setting

def name : Setting → String
  | .neutral _ => "--neutral-baud"
  | .settle _ => "--settle-ms"
  | .config _ => "--config"
  | .list => "--list"
  | .verbose => "--verbose"

/-- The texts that stand for the value, if there is one. -/
inductive Valued : Setting → String → Prop
  | neutral {r : Rate} {text : String} (h : Rate.parse text = .ok r) : Valued (.neutral r) text
  | settle {t : Millis} {text : String}
      (h : Text.Decimal.read 18446744073709551616 text.toList = .ok t.count) :
      Valued (.settle t) text
  | config {path : String} : Valued (.config path) path

/-- The groups of tokens that a setting can be written as. -/
inductive Spelled : Setting → List String → Prop
  | apart {s : Setting} {text : String} (h : s.Valued text) (hd : ¬ Dashed text) :
      Spelled s [s.name, text]
  | joined {s : Setting} {text : String} (h : s.Valued text) :
      Spelled s [s.name ++ "=" ++ text]
  | letter {path : String} (hd : ¬ Dashed path) : Spelled (.config path) ["-c", path]
  | list : Spelled .list ["--list"]
  | listLetter : Spelled .list ["-l"]
  | verbose : Spelled .verbose ["--verbose"]
  | verboseLetter : Spelled .verbose ["-v"]

end Setting

/-- The texts that a positional can be written as. -/
inductive Positional.Written : Positional → String → Prop
  | rate {r : Rate} {text : String} (h : Rate.parse text = .ok r) : Written (.rate r) text
  | port {path : String} : Written (.port path) path

/-- Settings in one order and positionals in theirs, laid out as tokens. A separator may stand
behind the last of the settings, and positionals behind it may begin with a dash. -/
inductive Laid : List Setting → List Positional → List String → Prop
  | nil : Laid [] [] []
  | group {s : Setting} {group : List String} {ss : List Setting} {ps : List Positional}
      {tokens : List String} (h : s.Spelled group) (rest : Laid ss ps tokens) :
      Laid (s :: ss) ps (group ++ tokens)
  | word {p : Positional} {text : String} {ss : List Setting} {ps : List Positional}
      {tokens : List String} (h : p.Written text) (hd : ¬ Dashed text) (rest : Laid ss ps tokens) :
      Laid ss (p :: ps) (text :: tokens)
  | separated {ps : List Positional} {texts : List String}
      (h : List.Forall₂ Positional.Written ps texts) : Laid [] ps ("--" :: texts)

/-- All that is set under a name, each once. -/
def named (c : CommandLine) : List Setting :=
  c.layer.neutral.toList.map .neutral ++ c.layer.settle.toList.map .settle ++
    c.config.toList.map .config ++ (if c.list then [.list] else []) ++
    if c.verbose then [.verbose] else []

def positionals (c : CommandLine) : List Positional :=
  c.layer.rate.toList.map .rate ++ c.layer.port.toList.map .port

/-- The tokens write the command line down. -/
def Renders (c : CommandLine) (tokens : List String) : Prop :=
  ∃ ss, ss.Perm c.named ∧ Laid ss c.positionals tokens

namespace Setting

/-- The name without the dashes before it. -/
def label : Setting → String
  | .neutral _ => "neutral-baud"
  | .settle _ => "settle-ms"
  | .config _ => "config"
  | .list => "list"
  | .verbose => "verbose"

theorem name_eq (s : Setting) : s.name = "--" ++ s.label := by cases s <;> rfl

theorem label_plain (s : Setting) : '=' ∉ s.label.toList ∧ s.label.toList ≠ [] := by
  cases s <;> simp [label]

def field? : Setting → Option Field
  | .neutral _ => some .neutral
  | .settle _ => some .settle
  | .config _ => some .config
  | .list => none
  | .verbose => none

def flag? : Setting → Option Flag
  | .list => some .list
  | .verbose => some .verbose
  | .neutral _ => none
  | .settle _ => none
  | .config _ => none

/-- Whether the command line leaves it open. -/
def Free (c : CommandLine) : Setting → Prop
  | .neutral _ => c.layer.neutral = none
  | .settle _ => c.layer.settle = none
  | .config _ => c.config = none
  | .list => c.list = false
  | .verbose => c.verbose = false

def addTo (c : CommandLine) : Setting → CommandLine
  | .neutral r => { c with layer.neutral := some r }
  | .settle t => { c with layer.settle := some t }
  | .config path => { c with config := some path }
  | .list => { c with list := true }
  | .verbose => { c with verbose := true }

end Setting

namespace Positional

def field : Positional → Field
  | .rate _ => .rate
  | .port _ => .port

def Free (c : CommandLine) : Positional → Prop
  | .rate _ => c.layer.rate = none
  | .port _ => c.layer.port = none

def addTo (c : CommandLine) : Positional → CommandLine
  | .rate r => { c with layer.rate := some r }
  | .port path => { c with layer.port := some path }

end Positional

theorem Setting.exists_spelled (s : Setting) : ∃ group, s.Spelled group := by
  cases s with
  | neutral r => exact ⟨_, .joined (.neutral r.parse_text)⟩
  | settle t =>
    have h : Text.Decimal.read 18446744073709551616
        (String.ofList (Text.Decimal.write t.count)).toList = .ok t.count := by
      rw [String.toList_ofList]
      exact Text.Decimal.read_write t.fits
    exact ⟨_, .joined (.settle h)⟩
  | config path => exact ⟨_, .joined .config⟩
  | list => exact ⟨_, .list⟩
  | verbose => exact ⟨_, .verbose⟩

theorem Positional.exists_written (p : Positional) : ∃ text, p.Written text := by
  cases p with
  | rate r => exact ⟨_, .rate r.parse_text⟩
  | port path => exact ⟨_, .port⟩

theorem exists_forall₂_written (ps : List Positional) :
    ∃ texts, List.Forall₂ Positional.Written ps texts := by
  induction ps with
  | nil => exact ⟨[], .nil⟩
  | cons p ps ih =>
    obtain ⟨text, hw⟩ := p.exists_written
    obtain ⟨texts, ht⟩ := ih
    exact ⟨text :: texts, .cons hw ht⟩

/-- The settings first, then a separator, then the positionals. -/
theorem exists_laid (ss : List Setting) (ps : List Positional) : ∃ tokens, Laid ss ps tokens := by
  induction ss with
  | nil =>
    obtain ⟨texts, ht⟩ := exists_forall₂_written ps
    exact ⟨_, .separated ht⟩
  | cons s ss ih =>
    obtain ⟨group, hg⟩ := s.exists_spelled
    obtain ⟨tokens, hl⟩ := ih
    exact ⟨_, .group hg hl⟩

theorem exists_renders (c : CommandLine) : ∃ tokens, c.Renders tokens := by
  obtain ⟨tokens, hl⟩ := exists_laid c.named c.positionals
  exact ⟨tokens, _, .refl _, hl⟩

section
variable {c line : CommandLine} {s : Setting} {ss : List Setting} {p : Positional}
  {ps : List Positional}

theorem mem_named_neutral {r : Rate} : .neutral r ∈ c.named ↔ c.layer.neutral = some r := by
  simp [named]

theorem mem_named_settle {t : Millis} : .settle t ∈ c.named ↔ c.layer.settle = some t := by
  simp [named]

theorem mem_named_config {path : String} : .config path ∈ c.named ↔ c.config = some path := by
  simp [named]

theorem mem_named_list : .list ∈ c.named ↔ c.list = true := by
  simp [named]

theorem mem_named_verbose : .verbose ∈ c.named ↔ c.verbose = true := by
  simp [named]

theorem mem_positionals_rate {r : Rate} : .rate r ∈ c.positionals ↔ c.layer.rate = some r := by
  simp [positionals]

theorem mem_positionals_port {path : String} :
    .port path ∈ c.positionals ↔ c.layer.port = some path := by
  simp [positionals]

/-- Nothing else is in a command line than what is named and what is not. -/
theorem eq_of_named_of_positionals (hn : line.named.Perm c.named)
    (hp : line.positionals = c.positionals) : line = c := by
  have hneutral : line.layer.neutral = c.layer.neutral := Option.ext fun r =>
    mem_named_neutral.symm.trans (hn.mem_iff.trans mem_named_neutral)
  have hsettle : line.layer.settle = c.layer.settle := Option.ext fun t =>
    mem_named_settle.symm.trans (hn.mem_iff.trans mem_named_settle)
  have hconfig : line.config = c.config := Option.ext fun path =>
    mem_named_config.symm.trans (hn.mem_iff.trans mem_named_config)
  have hlist : line.list = c.list := Bool.eq_iff_iff.mpr
    (mem_named_list.symm.trans (hn.mem_iff.trans mem_named_list))
  have hverbose : line.verbose = c.verbose := Bool.eq_iff_iff.mpr
    (mem_named_verbose.symm.trans (hn.mem_iff.trans mem_named_verbose))
  have hrate : line.layer.rate = c.layer.rate := Option.ext fun r => by
    rw [← mem_positionals_rate, hp, mem_positionals_rate]
  have hport : line.layer.port = c.layer.port := Option.ext fun path => by
    rw [← mem_positionals_port, hp, mem_positionals_port]
  obtain ⟨⟨_, _, _, _⟩, _, _, _⟩ := line
  obtain ⟨⟨_, _, _, _⟩, _, _, _⟩ := c
  simp_all

/-- No two settings of a command line have the same name. -/
theorem named_nodup (c : CommandLine) : (c.named.map Setting.label).Nodup := by
  obtain ⟨⟨_, _, neutral, settle⟩, config, list, verbose⟩ := c
  cases neutral <;> cases settle <;> cases config <;> cases list <;> cases verbose <;>
    simp [named, Setting.label]

theorem Setting.free_iff : s.Free c ↔ s.label ∉ c.named.map Setting.label := by
  cases s <;> simp [named, Setting.label, Setting.Free, Option.eq_none_iff_forall_ne_some]

/-- What is named after a free setting was added. -/
theorem Setting.Free.named_addTo (h : s.Free c) : (s.addTo c).named.Perm (s :: c.named) := by
  obtain ⟨⟨port, rate, neutral, settle⟩, config, list, verbose⟩ := c
  cases s with
  | neutral r =>
    cases h
    exact .refl _
  | settle t =>
    cases h
    exact ((List.perm_middle.append_right _).append_right _).append_right _
  | config path =>
    cases h
    exact (List.perm_middle.append_right _).append_right _
  | list =>
    cases h
    exact List.perm_middle.append_right _
  | verbose =>
    cases h
    exact List.perm_middle

theorem Setting.positionals_addTo (s : Setting) (c : CommandLine) :
    (s.addTo c).positionals = c.positionals := by
  cases s <;> rfl

theorem Positional.named_addTo (p : Positional) (c : CommandLine) :
    (p.addTo c).named = c.named := by
  cases p <;> rfl

/-- While a command line is read, the part that was read and what is still to come make it up. -/
structure Owed (c line : CommandLine) (ss : List Setting) (ps : List Positional) : Prop where
  named : (line.named ++ ss).Perm c.named
  positionals : line.positionals ++ ps = c.positionals

namespace Owed

theorem start (h : ss.Perm c.named) : c.Owed {} ss c.positionals := ⟨h, rfl⟩

theorem done (h : c.Owed line [] []) : line = c :=
  eq_of_named_of_positionals (by simpa using h.named) (by simpa using h.positionals)

/-- A setting that is still to come is free, because no name is given twice. -/
theorem free (h : c.Owed line (s :: ss) ps) : s.Free line := by
  have hd : ((line.named ++ s :: ss).map Setting.label).Nodup :=
    (h.named.map _).nodup_iff.mpr c.named_nodup
  rw [List.map_append, List.map_cons] at hd
  exact Setting.free_iff.mpr fun hm => (List.disjoint_of_nodup_append hd) hm List.mem_cons_self

theorem mem (h : c.Owed line (s :: ss) ps) : s ∈ c.named :=
  h.named.subset (List.mem_append_right _ List.mem_cons_self)

theorem setting (h : c.Owed line (s :: ss) ps) : c.Owed (s.addTo line) ss ps where
  named := ((h.free.named_addTo.append_right ss).trans List.perm_middle.symm).trans h.named
  positionals := (s.positionals_addTo line).symm ▸ h.positionals

/-- The next positional stands at its place, since a port does not go without a rate. -/
theorem positional (hc : c.layer.port.isSome → c.layer.rate.isSome)
    (h : c.Owed line ss (p :: ps)) :
    Reading.wordField? line.positionals.length = some p.field ∧ p.Free line ∧
      (p.addTo line).positionals = line.positionals ++ [p] := by
  have hp := h.positionals
  obtain ⟨⟨port, rate, _, _⟩, _, _, _⟩ := line
  obtain ⟨⟨port', rate', _, _⟩, _, _, _⟩ := c
  cases rate <;> cases port <;> cases rate' <;> cases port' <;>
    simp_all [CommandLine.positionals, Reading.wordField?, Positional.field, Positional.Free,
      Positional.addTo]

end Owed
end

end MagicBaud.CommandLine

import MagicBaud.Proofs.Process
import MagicBaud.Proofs.Rendering

namespace MagicBaud.CommandLine

theorem millisValue_eq {f : Field} {text : String} {t : Millis}
    (h : Text.Decimal.read 18446744073709551616 text.toList = .ok t.count) :
    millisValue f text = .ok t := by
  unfold millisValue
  split
  · rename_i n hn
    have he : n = t.count := Except.ok.inj (hn.symm.trans h)
    subst he
    rfl
  · rename_i fault hn
    cases hn.symm.trans h

theorem give_eq_put {c : CommandLine} {f : Field} (h : c.has f = false) (value : String) :
    c.give f value = c.put f value := by
  simp only [give, h, Bool.false_eq_true, if_false]

theorem Setting.Free.has {c : CommandLine} {s : Setting} {f : Field} (h : s.Free c)
    (hf : s.field? = some f) : c.has f = false := by
  cases s with
  | neutral | settle | config =>
    cases hf
    exact Option.isSome_eq_false_iff.mpr (Option.isNone_iff_eq_none.mpr h)
  | list | verbose => cases hf

/-- A value is put into its field, but for an empty path, which is no value. -/
theorem Setting.Valued.put {s : Setting} {text : String} {f : Field} (h : s.Valued text)
    (hf : s.field? = some f) (hn : s ≠ .config "") (c : CommandLine) :
    c.put f text = .ok (s.addTo c) := by
  cases h with
  | neutral h =>
    cases hf
    simp only [CommandLine.put, rateValue, h]
    rfl
  | settle h =>
    cases hf
    simp only [CommandLine.put, millisValue_eq h]
    rfl
  | config =>
    cases hf
    have ht : text ≠ "" := fun ht => hn (ht ▸ rfl)
    simp only [CommandLine.put, if_neg ht]
    rfl

theorem Setting.Valued.give {c : CommandLine} {s : Setting} {text : String} {f : Field}
    (h : s.Valued text) (hf : s.field? = some f) (hs : s.Free c) (hn : s ≠ .config "") :
    c.give f text = .ok (s.addTo c) :=
  (give_eq_put (hs.has hf) text).trans (h.put hf hn c)

theorem Positional.Free.has {c : CommandLine} {p : Positional} (h : p.Free c) :
    c.has p.field = false := by
  cases p <;> exact Option.isSome_eq_false_iff.mpr (Option.isNone_iff_eq_none.mpr h)

theorem Positional.Written.put {p : Positional} {text : String} (h : p.Written text)
    (c : CommandLine) : c.put p.field text = .ok (p.addTo c) := by
  cases h with
  | rate h =>
    simp only [CommandLine.put, Positional.field, rateValue, h]
    rfl
  | port => rfl

theorem Positional.Written.give {c : CommandLine} {p : Positional} {text : String}
    (h : p.Written text) (hp : p.Free c) : c.give p.field text = .ok (p.addTo c) :=
  (give_eq_put hp.has text).trans (h.put c)

theorem raise_free {c : CommandLine} {s : Setting} {f : Flag} (hf : s.flag? = some f)
    (hs : s.Free c) (detailed : Bool) : c.raise f detailed = .ok (s.addTo c) := by
  cases s with
  | list =>
    cases hf
    simp only [raise, show c.list = false from hs]
    rfl
  | verbose =>
    cases hf
    simp only [raise, show c.verbose = false from hs]
    rfl
  | neutral | settle | config => cases hf

theorem cut_append {c : Char} {before : List Char} (h : c ∉ before) (after : List Char) :
    Text.cut c (before ++ c :: after) = (before, some after) := by
  induction before with
  | nil => simp [Text.cut]
  | cons b before ih =>
    obtain ⟨hb, hn⟩ := not_or.mp (mt List.mem_cons.mpr h)
    simp only [List.cons_append, Text.cut, if_neg (Ne.symm hb), ih hn]

theorem cut_of_not_mem {c : Char} {cs : List Char} (h : c ∉ cs) : Text.cut c cs = (cs, none) := by
  induction cs with
  | nil => rfl
  | cons b cs ih =>
    obtain ⟨hb, hn⟩ := not_or.mp (mt List.mem_cons.mpr h)
    simp only [Text.cut, if_neg (Ne.symm hb), ih hn]

namespace Token

theorem ofText_of_not_optionLike {s : String} (h : ¬ OptionLike s) : ofText s = .word s := by
  unfold ofText
  split
  · rename_i hs
    exact absurd ⟨_, _, hs⟩ h
  · rename_i hs
    exact absurd ⟨_, _, hs⟩ h
  · rename_i hs
    exact absurd ⟨_, _, hs⟩ h
  · rfl

theorem ofText_of_not_dashed {s : String} (h : ¬ Dashed s) : ofText s = .word s :=
  ofText_of_not_optionLike fun ⟨_, _, hs⟩ => h (congrArg List.head? hs)

/-- Two dashes and more are a name, and a value behind the first equals sign in it. -/
theorem ofText_of_dashes {s : String} {cs : List Char} (h : s.toList = '-' :: '-' :: cs)
    (hn : cs ≠ []) : ofText s =
      .long (String.ofList (Text.cut '=' cs).1) ((Text.cut '=' cs).2.map String.ofList) := by
  obtain ⟨c, cs', rfl⟩ := List.exists_cons_of_ne_nil hn
  unfold ofText
  rw [h]
  rfl

theorem ofText_name (s : Setting) : ofText s.name = .long s.label none := by
  obtain ⟨hp, hn⟩ := s.label_plain
  have hs : s.name.toList = '-' :: '-' :: s.label.toList := by
    rw [s.name_eq, String.toList_append]
    rfl
  rw [ofText_of_dashes hs hn, cut_of_not_mem hp, String.ofList_toList]
  rfl

theorem ofText_joined (s : Setting) (text : String) :
    ofText (s.name ++ "=" ++ text) = .long s.label (some text) := by
  obtain ⟨hp, _⟩ := s.label_plain
  have hs : (s.name ++ "=" ++ text).toList =
      '-' :: '-' :: (s.label.toList ++ '=' :: text.toList) := by
    rw [s.name_eq, String.toList_append, String.toList_append, String.toList_append]
    simp
  rw [ofText_of_dashes hs (by simp), cut_append hp, String.ofList_toList, Option.map_some,
    String.ofList_toList]

end Token

namespace Reading
variable {r : Reading} {line line' : CommandLine} {n : Nat} {only : Bool} {f : Field}
  {token text : String}

/-- Either nothing is awaited, or a whole value that its field takes. -/
theorem settle_cases {r' : Reading} (h : r.settle = .ok r') :
    (r.awaited = none ∧ r' = r) ∨
      ∃ f text line, r.awaited = some (f, some text) ∧ r.line.give f text = .ok line ∧
        r' = { r with line := line, awaited := none } := by
  unfold settle at h
  split at h
  · rename_i ha
    cases h
    exact .inl ⟨ha, rfl⟩
  · cases h
  · rename_i ha
    split at h
    · rename_i hg
      cases h
      exact .inr ⟨_, _, _, ha, hg, rfl⟩
    · cases h

/-- The line as read so far, once the value that is awaited has been looked at. -/
def Stands (r : Reading) (line : CommandLine) (words : Nat) (only : Bool) : Prop :=
  r.settle = .ok ⟨line, none, words, only⟩

theorem stands_start : Stands {} {} 0 false := rfl

theorem Stands.await (h : r.Stands line n only) (f : Field) (value : Option String) :
    r.await f value = .ok ⟨line, some (f, value), n, only⟩ := by
  unfold Reading.await
  rw [h]
  rfl

/-- A value that will be accepted stands for the line that it leads to. -/
theorem stands_awaited (hg : line.give f text = .ok line') :
    Stands ⟨line, some (f, some text), n, only⟩ line' n only := by
  simp only [Stands, settle, hg]

theorem Stands.attach (h : r.Stands line n only) (hg : line.give f text = .ok line') :
    r.attach f text = .ok ⟨line', none, n, only⟩ := by
  unfold Reading.attach
  rw [h.await]
  exact stands_awaited hg

theorem Stands.flag (h : r.Stands line n only) {f : Flag} {detailed : Bool}
    (hr : line.raise f detailed = .ok line') : r.flag f detailed = .ok ⟨line', none, n, only⟩ := by
  unfold Reading.flag
  rw [h]
  simp only [Except.bind, hr]
  rfl

theorem Stands.letter (h : r.Stands line n only) {letter : Char} {f : Flag}
    (hf : Argument.ofLetter? letter = some (.flag f)) (hr : line.raise f false = .ok line') :
    short [letter] r = .ok ⟨line', none, n, only⟩ := by
  simp only [short, hf, h.flag hr]
  rfl

/-- What is not looked at yet is a whole value; words are counted and a separator is noted. -/
theorem Stands.fields (h : r.Stands line n only) :
    r.words = n ∧ r.onlyWords = only ∧ ∀ f, r.awaited ≠ some (f, none) := by
  obtain ⟨ha, hr⟩ | ⟨_, _, _, ha, _, hr⟩ := settle_cases h
  · cases hr
    exact ⟨rfl, rfl, fun f hf => nomatch hf⟩
  · cases hr
    exact ⟨rfl, rfl, fun f hf => nomatch ha.symm.trans hf⟩

theorem step_long {name : String} {value : Option String} (ho : r.onlyWords = false)
    (ht : Token.ofText token = .long name value) : r.step token = r.long name value := by
  simp only [step, ho, ht, Bool.false_eq_true, if_false]

theorem step_short {letters : List Char} (ho : r.onlyWords = false)
    (ht : Token.ofText token = .short letters) : r.step token = short letters r := by
  simp only [step, ho, ht, Bool.false_eq_true, if_false]

theorem step_value (ho : r.onlyWords = false) (ht : Token.ofText token = .word token)
    (ha : r.awaited = some (f, none)) :
    r.step token = .ok { r with awaited := some (f, some token) } := by
  simp only [step, ho, ht, ha, Bool.false_eq_true, if_false]

theorem step_word (ht : Token.ofText token = .word token)
    (ha : ∀ f, r.awaited ≠ some (f, none)) : r.step token = r.word token := by
  unfold step
  split
  · rfl
  · rw [ht]
    rcases hw : r.awaited with _ | ⟨f, _ | value⟩
    · rfl
    · exact absurd hw (ha f)
    · rfl

theorem long_await {s : Setting} (hf : s.field? = some f) :
    r.long s.label none = r.await f none := by
  cases s with
  | neutral | settle | config =>
    cases hf
    rfl
  | list | verbose => cases hf

theorem long_attach {s : Setting} (hf : s.field? = some f) :
    r.long s.label (some text) = r.attach f text := by
  cases s with
  | neutral | settle | config =>
    cases hf
    rfl
  | list | verbose => cases hf

theorem foldlM_step {r₁ : Reading} (h : r.step token = .ok r₁) (tokens : List String) :
    (token :: tokens).foldlM step r = tokens.foldlM step r₁ := by
  rw [List.foldlM_cons, h]
  rfl

/-- What a single token leads to when nothing is awaited behind it. -/
theorem Stands.single (h : r.step token = .ok ⟨line, none, n, only⟩) :
    ∃ r', [token].foldlM step r = .ok r' ∧ r'.Stands line n only :=
  ⟨_, foldlM_step h [], rfl⟩

/-- A value in a token of its own follows the token that begins its field. -/
theorem Stands.apart (h : r.Stands line n false) (hb : r.step token = r.await f none)
    (hd : ¬ Dashed text) (hg : line.give f text = .ok line') :
    ∃ r', [token, text].foldlM step r = .ok r' ∧ r'.Stands line' n false := by
  have hv : step ⟨line, some (f, none), n, false⟩ text =
      .ok ⟨line, some (f, some text), n, false⟩ :=
    step_value rfl (Token.ofText_of_not_dashed hd) rfl
  refine ⟨_, ?_, stands_awaited hg⟩
  rw [foldlM_step (hb.trans (h.await f none)), foldlM_step hv]
  rfl

theorem step_onlyWords (ho : r.onlyWords = true) : r.step token = r.word token := by
  simp only [step, ho, if_true]

theorem step_separator (ho : r.onlyWords = false) :
    r.step "--" = .ok { r with onlyWords := true } := by
  have ht : Token.ofText "--" = .separator := rfl
  simp only [step, ho, ht, Bool.false_eq_true, if_false]

/-- A separator does not touch what is awaited. -/
theorem Stands.separate (h : r.Stands line n only) :
    Stands { r with onlyWords := true } line n true := by
  obtain ⟨ha, hr⟩ | ⟨_, _, _, ha, hg, hr⟩ := settle_cases h
  · cases hr
    rfl
  · cases hr
    simp only [Stands, settle, ha, hg]

theorem Stands.word (h : r.Stands line n only) (hf : wordField? n = some f)
    (hg : line.give f text = .ok line') :
    ∃ r', r.word text = .ok r' ∧ r'.Stands line' (n + 1) only := by
  refine ⟨⟨line, some (f, some text), n + 1, only⟩, ?_, stands_awaited hg⟩
  unfold Reading.word
  rw [h.fields.1, hf]
  simp only [h.await]
  rfl

end Reading

theorem Setting.Valued.field {s : Setting} {text : String} (h : s.Valued text) :
    ∃ f, s.field? = some f := by
  cases h <;> exact ⟨_, rfl⟩

open Reading in
/-- However a setting is spelled, it is added to the line. -/
theorem Setting.Spelled.reads {s : Setting} {group : List String} (hg : s.Spelled group)
    {r : Reading} {line : CommandLine} {n : Nat} (h : r.Stands line n false) (hs : s.Free line)
    (hn : s ≠ .config "") :
    ∃ r', group.foldlM Reading.step r = .ok r' ∧ r'.Stands (s.addTo line) n false := by
  obtain ⟨_, ho, _⟩ := h.fields
  cases hg with
  | apart hv hd =>
    obtain ⟨f, hf⟩ := hv.field
    refine h.apart ?_ hd (hv.give hf hs hn)
    exact (step_long ho (Token.ofText_name s)).trans (long_await hf)
  | joined hv =>
    obtain ⟨f, hf⟩ := hv.field
    apply Stands.single
    rw [step_long ho (Token.ofText_joined s _), long_attach hf]
    exact h.attach (hv.give hf hs hn)
  | letter hd =>
    have ht : Token.ofText "-c" = .short ['c'] := rfl
    exact h.apart (step_short ho ht) hd (Setting.Valued.config.give rfl hs hn)
  | list =>
    have ht : Token.ofText "--list" = .long "list" none := rfl
    exact Stands.single ((step_long ho ht).trans (h.flag (raise_free rfl hs true)))
  | listLetter =>
    have ht : Token.ofText "-l" = .short ['l'] := rfl
    exact Stands.single ((step_short ho ht).trans (h.letter rfl (raise_free rfl hs false)))
  | verbose =>
    have ht : Token.ofText "--verbose" = .long "verbose" none := rfl
    exact Stands.single ((step_long ho ht).trans (h.flag (raise_free rfl hs true)))
  | verboseLetter =>
    have ht : Token.ofText "-v" = .short ['v'] := rfl
    exact Stands.single ((step_short ho ht).trans (h.letter rfl (raise_free rfl hs false)))

/-- What can be written: a port has a rate before it, and a path is not empty. -/
structure Writable (c : CommandLine) : Prop where
  rate_of_port : c.layer.port.isSome → c.layer.rate.isSome
  path_ne : c.config ≠ some ""

namespace Owed
variable {c line : CommandLine} {s : Setting} {ss : List Setting} {p : Positional}
  {ps : List Positional} {r : Reading} {only : Bool}

theorem reads_group (hc : c.Writable) (h : c.Owed line (s :: ss) ps) {group : List String}
    (hg : s.Spelled group) (hr : r.Stands line line.positionals.length false) :
    ∃ r', group.foldlM Reading.step r = .ok r' ∧
      r'.Stands (s.addTo line) (s.addTo line).positionals.length false := by
  have hn : s ≠ .config "" := fun hs => hc.path_ne (mem_named_config.mp (hs ▸ h.mem))
  rw [s.positionals_addTo]
  exact hg.reads hr h.free hn

theorem reads_word (hc : c.Writable) (h : c.Owed line ss (p :: ps)) {text : String}
    (hw : p.Written text) (hr : r.Stands line line.positionals.length only) :
    ∃ r', r.word text = .ok r' ∧ c.Owed (p.addTo line) ss ps ∧
      r'.Stands (p.addTo line) (p.addTo line).positionals.length only := by
  obtain ⟨hf, hp, hl⟩ := h.positional hc.rate_of_port
  obtain ⟨r', hr', hs⟩ := hr.word hf (hw.give hp)
  refine ⟨r', hr', ⟨?_, ?_⟩, ?_⟩
  · exact (p.named_addTo line).symm ▸ h.named
  · rw [hl, List.append_assoc]
    exact h.positionals
  · rw [hl, List.length_append]
    exact hs

/-- Induction on the texts behind a separator. -/
theorem reads_words (hc : c.Writable) {texts : List String}
    (ht : List.Forall₂ Positional.Written ps texts) (h : c.Owed line [] ps)
    (hr : r.Stands line line.positionals.length true) :
    ∃ r', texts.foldlM Reading.step r = .ok r' ∧ r'.Stands c c.positionals.length true := by
  induction ht generalizing r line with
  | nil => exact ⟨r, rfl, h.done ▸ hr⟩
  | cons hw _ ih =>
    obtain ⟨r₁, hr₁, h₁, hs₁⟩ := h.reads_word hc hw hr
    have hstep := (Reading.step_onlyWords hr.fields.2.1).trans hr₁
    rw [Reading.foldlM_step hstep]
    exact ih h₁ hs₁

/-- Induction on the layout: what is owed before a token less that token is owed behind it. -/
theorem reads (hc : c.Writable) {tokens : List String} (hl : Laid ss ps tokens)
    (h : c.Owed line ss ps) (hr : r.Stands line line.positionals.length false) :
    ∃ r' only, tokens.foldlM Reading.step r = .ok r' ∧
      r'.Stands c c.positionals.length only := by
  induction hl generalizing r line with
  | nil => exact ⟨r, false, rfl, h.done ▸ hr⟩
  | group hg _ ih =>
    obtain ⟨r₁, hr₁, hs₁⟩ := h.reads_group hc hg hr
    rw [List.foldlM_append, hr₁]
    exact ih h.setting hs₁
  | word hw hd _ ih =>
    obtain ⟨r₁, hr₁, h₁, hs₁⟩ := h.reads_word hc hw hr
    have hstep := (Reading.step_word (Token.ofText_of_not_dashed hd) hr.fields.2.2).trans hr₁
    rw [Reading.foldlM_step hstep]
    exact ih h₁ hs₁
  | separated ht =>
    rw [Reading.foldlM_step (Reading.step_separator hr.fields.2.1)]
    obtain ⟨r', hr', hs'⟩ := h.reads_words hc ht hr.separate
    exact ⟨r', true, hr', hs'⟩

end Owed

/-- A command line is read back from every way to write it. -/
theorem parse_of_renders {c : CommandLine} (hc : c.Writable) {tokens : List String}
    (h : c.Renders tokens) : parse tokens = .ok c := by
  obtain ⟨ss, hp, hl⟩ := h
  obtain ⟨r, only, hr, hs⟩ := (Owed.start hp).reads hc hl Reading.stands_start
  unfold parse
  rw [hr]
  exact congrArg (Except.map Reading.line) hs

/-- Reading undoes writing: a command line can be written, it is read back from every way to write
it, and the ways to write it are all the same run. -/
theorem parse_rendered (c : CommandLine) (hc : c.Writable) :
    (∃ tokens, c.Renders tokens) ∧
    (∀ tokens, c.Renders tokens → parse tokens = .ok c) ∧
    ∀ w tokens tokens', c.Renders tokens → c.Renders tokens' →
      Program.run w tokens = Program.run w tokens' := by
  refine ⟨c.exists_renders, fun tokens h => parse_of_renders hc h, ?_⟩
  intro w tokens tokens' h h'
  unfold Program.run
  rw [parse_of_renders hc h, parse_of_renders hc h']

/-- Settings before and between the positionals, and a port that begins with a dash. -/
theorem parse_rendered_dashed :
    let c : CommandLine :=
      { layer := { rate := some ⟨1200, by decide⟩, port := some "-tty",
                   settle := some ⟨20, by decide⟩ }
        config := some "baud.toml", verbose := true }
    let tokens := ["-v", "Touch", "-c", "baud.toml", "--settle-ms=20", "--", "-tty"]
    c.Writable ∧ c.Renders tokens ∧ parse tokens = .ok c := by
  intro c tokens
  have hc : c.Writable := ⟨fun _ => rfl, by decide⟩
  have hr : c.Renders tokens := by
    refine ⟨[.verbose, .config "baud.toml", .settle ⟨20, by decide⟩], ?_, ?_⟩
    · exact List.reverse_perm c.named
    · refine .group .verboseLetter (.word (.rate rfl) (by decide) ?_)
      have ht : Setting.Valued (.settle ⟨20, by decide⟩) "20" := .settle rfl
      refine .group (.letter (by decide)) (.group (.joined ht) ?_)
      exact .separated (.cons .port .nil)
  exact ⟨hc, hr, (parse_rendered c hc).2.1 tokens hr⟩

end MagicBaud.CommandLine

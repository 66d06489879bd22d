import MagicBaud.Proofs.Rereading

namespace MagicBaud.CommandLine

theorem map_ok {α β ε : Type} {x : Except ε α} {g : α → β} {b : β} (h : x.map g = .ok b) :
    ∃ a, x = .ok a ∧ g a = b := by
  cases x with
  | error e => cases h
  | ok a => exact ⟨a, rfl, Except.ok.inj h⟩

theorem bind_ok {α β ε : Type} {x : Except ε α} {g : α → Except ε β} {b : β}
    (h : x.bind g = .ok b) : ∃ a, x = .ok a ∧ g a = .ok b := by
  cases x with
  | error e => cases h
  | ok a => exact ⟨a, rfl, h⟩

theorem put_of_give {c c' : CommandLine} {f : Field} {value : String}
    (h : c.give f value = .ok c') : c.put f value = .ok c' := by
  unfold give at h
  split at h
  · cases h
  · exact h

theorem has_put {c c' : CommandLine} {f : Field} {value : String} (h : c.put f value = .ok c')
    (g : Field) : c'.has g = true ↔ c.has g = true ∨ f = g := by
  cases f with
  | rate | neutral | settle =>
    rw [put] at h
    obtain ⟨x, _, rfl⟩ := map_ok h
    cases g <;> simp_all [has]
  | port =>
    cases h
    cases g <;> simp_all [has]
  | config =>
    simp only [put] at h
    split at h
    · cases h
    · cases h
      cases g <;> simp_all [has]

theorem has_raise {c c' : CommandLine} {f : Flag} {detailed : Bool}
    (h : c.raise f detailed = .ok c') (g : Field) : c'.has g = c.has g := by
  cases f with
  | help | version => cases h
  | list | verbose =>
    simp only [raise] at h
    split at h
    · cases h
    · cases h
      cases g <;> rfl

theorem Token.eq_of_separator {token : String} (h : ofText token = .separator) : token = "--" := by
  unfold ofText at h
  split at h
  · rename_i hs
    rw [← String.ofList_toList (s := token), hs]
  · cases h
  · cases h
  · cases h

namespace Reading
variable {r r' : Reading} {f : Field} {token : String}

/-- The field has been given, though its value may not have been looked at. -/
def Has (r : Reading) (f : Field) : Prop :=
  r.line.has f = true ∨ r.awaited.map Prod.fst = some f

/-- What an argument that is no word leaves as it was. -/
structure Keeps (r r' : Reading) : Prop where
  words : r'.words = r.words
  onlyWords : r'.onlyWords = r.onlyWords
  has : ∀ f, r.Has f → r'.Has f

theorem Keeps.trans {r₁ r₂ r₃ : Reading} (h : r₁.Keeps r₂) (h' : r₂.Keeps r₃) : r₁.Keeps r₃ :=
  ⟨h'.words.trans h.words, h'.onlyWords.trans h.onlyWords, fun f hf => h'.has f (h.has f hf)⟩

/-- Once the awaited value has been looked at, all that was given is in the line. -/
theorem settle_keeps (h : r.settle = .ok r') :
    r.Keeps r' ∧ r'.awaited = none ∧ ∀ f, r'.line.has f = true ↔ r.Has f := by
  obtain ⟨ha, rfl⟩ | ⟨f, text, line, ha, hg, rfl⟩ := settle_cases h
  · exact ⟨⟨rfl, rfl, fun _ => id⟩, ha, fun f => by simp [Has, ha]⟩
  · have hline : ∀ g, line.has g = true ↔ r.Has g := by
      intro g
      rw [has_put (put_of_give hg), Has, ha, Option.map_some, Option.some.injEq]
    exact ⟨⟨rfl, rfl, fun g hr => .inl ((hline g).mpr hr)⟩, rfl, hline⟩

theorem await_keeps {value : Option String} (h : r.await f value = .ok r') :
    r.Keeps r' ∧ r'.awaited = some (f, value) := by
  obtain ⟨r₁, hs, rfl⟩ := map_ok h
  obtain ⟨hk, _, hr⟩ := settle_keeps hs
  exact ⟨⟨hk.words, hk.onlyWords, fun g h => .inl ((hr g).mpr h)⟩, rfl⟩

theorem attach_keeps {value : String} (h : r.attach f value = .ok r') : r.Keeps r' := by
  obtain ⟨r₁, ha, hs⟩ := bind_ok h
  exact (await_keeps ha).1.trans (settle_keeps hs).1

theorem flag_keeps {f : Flag} {detailed : Bool} (h : r.flag f detailed = .ok r') :
    r.Keeps r' := by
  obtain ⟨r₁, hs, hm⟩ := bind_ok h
  obtain ⟨line, hr, rfl⟩ := map_ok hm
  obtain ⟨hk, _, hline⟩ := settle_keeps hs
  exact ⟨hk.words, hk.onlyWords, fun g h => .inl ((has_raise hr g).trans ((hline g).mpr h))⟩

theorem long_keeps {name : String} {value : Option String} (h : r.long name value = .ok r') :
    r.Keeps r' := by
  unfold long at h
  split at h
  · cases h
  · exact attach_keeps h
  · exact (await_keeps h).1
  · cases h
  · exact flag_keeps h

/-- Induction on the letters of the token. -/
theorem short_keeps {letters : List Char} (h : short letters r = .ok r') : r.Keeps r' := by
  induction letters generalizing r with
  | nil =>
    cases h
    exact ⟨rfl, rfl, fun _ => id⟩
  | cons c cs ih =>
    unfold short at h
    split at h
    · cases h
    · obtain ⟨r₁, hf, hs⟩ := bind_ok h
      exact (flag_keeps hf).trans (ih hs)
    · split at h
      · exact (await_keeps h).1
      · exact attach_keeps h
      · exact attach_keeps h

/-- The first word is the rate. -/
def Counted (r : Reading) : Prop := r.words = 0 ∨ r.Has .rate

/-- What no token takes back. -/
structure Advances (r r' : Reading) : Prop where
  has : ∀ f, r.Has f → r'.Has f
  counted : r.Counted → r'.Counted

theorem Keeps.advances (h : r.Keeps r') : r.Advances r' :=
  ⟨h.has, Or.imp h.words.trans (h.has .rate)⟩

theorem word_advances {text : String} (h : r.word text = .ok r') :
    r.Advances r' ∧ r'.onlyWords = r.onlyWords := by
  unfold word at h
  split at h
  · rename_i f hf
    obtain ⟨r₁, ha, rfl⟩ := map_ok h
    obtain ⟨hk, haw⟩ := await_keeps ha
    refine ⟨⟨hk.has, ?_⟩, hk.onlyWords⟩
    rintro (hw | hr)
    · rw [hw] at hf
      cases hf
      exact .inr (.inr (congrArg (Option.map Prod.fst) haw))
    · exact .inr (hk.has .rate hr)
  · cases h

/-- Only a separator begins the part that is nothing but words. -/
theorem step_advances (h : r.step token = .ok r') :
    r.Advances r' ∧ (token ≠ "--" → r'.onlyWords = r.onlyWords) := by
  have ofWord : ∀ {text}, r.word text = .ok r' →
      r.Advances r' ∧ (token ≠ "--" → r'.onlyWords = r.onlyWords) :=
    fun h => ⟨(word_advances h).1, fun _ => (word_advances h).2⟩
  have ofKeeps : r.Keeps r' → r.Advances r' ∧ (token ≠ "--" → r'.onlyWords = r.onlyWords) :=
    fun hk => ⟨hk.advances, fun _ => hk.onlyWords⟩
  unfold step at h
  split at h
  · exact ofWord h
  · split at h
    · rename_i ht
      cases h
      exact ⟨⟨fun _ => id, id⟩, fun hn => absurd (Token.eq_of_separator ht) hn⟩
    · exact ofKeeps (long_keeps h)
    · exact ofKeeps (short_keeps h)
    · rename_i f _ ha
      cases h
      refine ofKeeps ⟨rfl, rfl, fun g => Or.imp_right fun hf => ?_⟩
      rw [ha] at hf
      exact hf
    · exact ofWord h

/-- Induction on the tokens. -/
theorem foldlM_advances {tokens : List String} (h : tokens.foldlM step r = .ok r') :
    r.Advances r' ∧ ("--" ∉ tokens → r'.onlyWords = r.onlyWords) := by
  induction tokens generalizing r with
  | nil =>
    cases h
    exact ⟨⟨fun _ => id, id⟩, fun _ => rfl⟩
  | cons token tokens ih =>
    rw [List.foldlM_cons] at h
    obtain ⟨r₁, h₁, h₂⟩ := bind_ok h
    obtain ⟨ha, ho⟩ := step_advances h₁
    obtain ⟨ha', ho'⟩ := ih h₂
    refine ⟨⟨fun f hf => ha'.has f (ha.has f hf), ha'.counted ∘ ha.counted⟩, fun hs => ?_⟩
    rw [List.mem_cons, not_or] at hs
    exact (ho' hs.2).trans (ho (Ne.symm hs.1))

end Reading

open Reading

variable {tokens : List String} {line : CommandLine}

/-- The reading of tokens without a separator stands for their command line, and a word has been
counted only if the rate is given. -/
theorem exists_stands (h : parse tokens = .ok line) (hs : "--" ∉ tokens) :
    ∃ r n, tokens.foldlM Reading.step {} = .ok r ∧ r.Stands line n false ∧
      (line.layer.rate = none → n = 0) := by
  rw [parse] at h
  obtain ⟨r, hr, hm⟩ := bind_ok h
  obtain ⟨r₁, hset, rfl⟩ := map_ok hm
  obtain ⟨hadv, ho⟩ := foldlM_advances hr
  obtain ⟨hk, ha, hline⟩ := settle_keeps hset
  refine ⟨r, r.words, hr, ?_, ?_⟩
  · obtain ⟨line, awaited, words, only⟩ := r₁
    obtain rfl : awaited = none := ha
    obtain rfl : words = r.words := hk.words
    obtain rfl : only = false := hk.onlyWords.trans (ho hs)
    exact hset
  · intro hn
    refine (hadv.counted (.inl rfl)).resolve_right fun h => ?_
    have := (hline .rate).mpr h
    rw [has, hn] at this
    cases this

theorem foldlM_append {r r' : Reading} (h : tokens.foldlM Reading.step r = .ok r')
    (more : List String) :
    (tokens ++ more).foldlM Reading.step r = more.foldlM Reading.step r' := by
  rw [List.foldlM_append, h]
  rfl

theorem parse_append {r : Reading} (h : tokens.foldlM Reading.step {} = .ok r) (token : String) :
    parse (tokens ++ [token]) = (r.step token).bind fun r => r.settle.map Reading.line := by
  unfold parse
  rw [foldlM_append h]
  cases ht : r.step token <;> simp [bind, Except.bind, ht, pure, Except.pure]

/-- An awaited value is given to its field when it is looked at. -/
theorem settle_awaited (line : CommandLine) (f : Field) (text : String) (n : Nat) (only : Bool) :
    (Reading.mk line (some (f, some text)) n only).settle =
      ((line.give f text).mapError .refused).map fun line => ⟨line, none, n, only⟩ := by
  unfold Reading.settle
  simp only
  cases line.give f text <;> rfl

/-- The token alone gives the text to the field: behind the name of the field, or as the first word,
which is the rate. -/
inductive Gives (line : CommandLine) : Field → String → String → Prop
  | joined {s : Setting} {f : Field} (hf : s.field? = some f) (text : String) :
      Gives line f text (s.name ++ "=" ++ text)
  | word {text : String} (hn : line.layer.rate = none) (hd : ¬ Dashed text) :
      Gives line .rate text text

theorem Reading.step_joined {r : Reading} {n : Nat} (h : r.Stands line n false) {s : Setting}
    {f : Field} (hf : s.field? = some f) (text : String) :
    r.step (s.name ++ "=" ++ text) =
      ((line.give f text).mapError .refused).map fun line => ⟨line, none, n, false⟩ := by
  rw [step_long h.fields.2.1 (Token.ofText_joined s text), long_attach hf, attach, h.await]
  exact settle_awaited line f text n false

theorem Reading.step_first {r : Reading} {text : String} (h : r.Stands line 0 false)
    (hd : ¬ Dashed text) :
    r.step text = .ok ⟨line, some (.rate, some text), 1, false⟩ := by
  rw [step_word (Token.ofText_of_not_dashed hd) h.fields.2.2, word, h.fields.1]
  simp only [wordField?, h.await]
  rfl

/-- A value in the last token is given to its field, or refused. -/
theorem parse_giving (h : parse tokens = .ok line) (hs : "--" ∉ tokens) {f : Field}
    {text token : String} (hg : line.Gives f text token) :
    parse (tokens ++ [token]) = (line.give f text).mapError .refused := by
  obtain ⟨r, n, hr, hst, hz⟩ := exists_stands h hs
  rw [parse_append hr]
  cases hg with
  | joined hf =>
    rw [step_joined hst hf]
    cases line.give f text <;> rfl
  | word hn hd =>
    rw [step_first (hz hn ▸ hst) hd]
    simp only [Except.bind, settle_awaited]
    cases line.give .rate text <;> rfl

end MagicBaud.CommandLine

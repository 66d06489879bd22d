import MagicBaud.Proofs.Insertion

namespace MagicBaud.CommandLine

namespace Reading
variable {r r₀ r₁ : Reading} {f : Field} {token : String} {e : Reply}

theorem await_refused (he : r.settle = .error e) (f : Field) (value : Option String) :
    r.await f value = .error e := by
  rw [await, he]
  rfl

theorem attach_refused (he : r.settle = .error e) (f : Field) (value : String) :
    r.attach f value = .error e := by
  rw [attach, await_refused he]
  rfl

theorem flag_refused (he : r.settle = .error e) (g : Flag) (detailed : Bool) :
    r.flag g detailed = .error e := by
  rw [flag, he]
  rfl

theorem long_refused {name : String} {value : Option String} (he : r.settle = .error e)
    (h : r₀.long name value = .ok r₁) : r.long name value = .error e := by
  unfold long at h ⊢
  split at h
  · cases h
  · exact attach_refused he _ _
  · exact await_refused he _ _
  · cases h
  · exact flag_refused he _ _

theorem short_refused {letters : List Char} (hn : letters ≠ []) (he : r.settle = .error e)
    (h : short letters r₀ = .ok r₁) : short letters r = .error e := by
  obtain ⟨c, cs, rfl⟩ := List.exists_cons_of_ne_nil hn
  unfold short at h ⊢
  split at h
  · cases h
  · simp only [flag_refused he]
    rfl
  · split at h
    · exact await_refused he _ _
    · exact attach_refused he _ _
    · exact attach_refused he _ _

theorem word_refused {text : String} (he : r.settle = .error e) (hw : r.words = r₀.words)
    (h : r₀.word text = .ok r₁) : r.word text = .error e := by
  unfold word at h ⊢
  rw [hw]
  split at h
  · rw [await_refused he]
    rfl
  · cases h

/-- The first reading awaits a value that will be refused, in a place where the second one goes
on. -/
structure Stuck (e : Reply) (r r₀ : Reading) : Prop where
  refused : r.settle = .error e
  words : r.words = r₀.words
  onlyWords : r.onlyWords = r₀.onlyWords
  closed : ∀ f, r.awaited ≠ some (f, none)
  closed₀ : ∀ f, r₀.awaited ≠ some (f, none)

theorem settle_separate (he : r.settle = .error e) :
    ({ r with onlyWords := true } : Reading).settle = .error e := by
  obtain ⟨line, awaited, words, only⟩ := r
  rcases awaited with _ | ⟨f, _ | text⟩
  · cases he
  · exact he
  · rw [settle_awaited] at he ⊢
    cases hg : line.give f text with
    | ok line' =>
      rw [hg] at he
      cases he
    | error cause =>
      rw [hg] at he
      exact he

/-- The value is refused by the next token, unless this is a separator. -/
theorem Stuck.step (hs : Stuck e r r₀) (h : r₀.step token = .ok r₁) :
    r.step token = .error e ∨ ∃ r', r.step token = .ok r' ∧ Stuck e r' r₁ := by
  by_cases honly : r₀.onlyWords = true
  · rw [step_onlyWords honly] at h
    rw [step_onlyWords (hs.onlyWords.trans honly)]
    exact .inl (word_refused hs.refused hs.words h)
  rw [Bool.not_eq_true] at honly
  have ho := hs.onlyWords.trans honly
  cases ht : Token.ofText token with
  | separator =>
    obtain rfl := Token.eq_of_separator ht
    rw [step_separator honly] at h
    cases h
    refine .inr ⟨_, step_separator ho, ?_⟩
    exact ⟨settle_separate hs.refused, hs.words, rfl, hs.closed, hs.closed₀⟩
  | long name value =>
    rw [step_long honly ht] at h
    rw [step_long ho ht]
    exact .inl (long_refused hs.refused h)
  | short letters =>
    rw [step_short honly ht] at h
    rw [step_short ho ht]
    exact .inl (short_refused (Token.eq_of_short ht).2 hs.refused h)
  | word text =>
    have hw : Token.ofText token = .word token :=
      Token.ofText_of_not_optionLike (Token.not_optionLike_of_word ht)
    rw [step_word hw hs.closed₀] at h
    rw [step_word hw hs.closed]
    exact .inl (word_refused hs.refused hs.words h)

/-- Induction on the tokens. -/
theorem Stuck.foldlM {tokens : List String} (hs : Stuck e r r₀)
    (h : tokens.foldlM Reading.step r₀ = .ok r₁) :
    (tokens.foldlM Reading.step r).bind settle = .error e := by
  induction tokens generalizing r r₀ with
  | nil => exact hs.refused
  | cons token tokens ih =>
    rw [List.foldlM_cons] at h
    obtain ⟨r₂, h₁, h₂⟩ := bind_ok h
    rcases hs.step h₁ with he | ⟨r', hr, hs'⟩
    · rw [List.foldlM_cons, he]
      rfl
    · rw [foldlM_step hr]
      exact ih hs' h₂

end Reading

open Reading

variable {c c₀ c' : CommandLine} {f : Field} {text₀ text token₀ token : String}
  {front back : List String} {change : CommandLine → CommandLine}

theorem Setting.ne_rate {s : Setting} (hf : s.field? = some f) : f ≠ .rate := by
  cases s with
  | neutral | settle | config =>
    cases hf
    decide
  | list | verbose => cases hf

/-- Words are counted, but a value behind its name is none. -/
theorem Gives.reads {r : Reading} {n : Nat} (hg : c.Gives f text token)
    (h : r.Stands c n false) (hz : c.layer.rate = none → n = 0)
    (hgive : c.give f text = .ok c') :
    ∃ r', r.step token = .ok r' ∧ r'.Stands c' (if f = .rate then 1 else n) false := by
  cases hg with
  | joined hf =>
    rw [step_joined h hf, hgive, if_neg (Setting.ne_rate hf)]
    exact ⟨_, rfl, rfl⟩
  | word hn hd =>
    rw [step_first (hz hn ▸ h) hd]
    exact ⟨_, rfl, stands_awaited hgive⟩

/-- A value that is refused is so at once, or when it is looked at. -/
theorem Gives.stuck {r r₀ : Reading} {n : Nat} {e : Refusal} (hg₀ : c.Gives f text₀ token₀)
    (hg : c.Gives f text token) (h : r.Stands c n false) (hz : c.layer.rate = none → n = 0)
    (h₀ : r.step token₀ = .ok r₀) (he : c.give f text = .error e) :
    r.step token = .error (.refused e) ∨
      ∃ r', r.step token = .ok r' ∧ Stuck (.refused e) r' r₀ := by
  cases hg with
  | joined hf =>
    rw [step_joined h hf, he]
    exact .inl rfl
  | word hn hd =>
    cases hg₀ with
    | joined hf => exact absurd rfl (Setting.ne_rate hf)
    | word _ hd₀ =>
      have h := hz hn ▸ h
      rw [step_first h hd₀] at h₀
      cases h₀
      have hrefused : (Reading.mk c (some (.rate, some text)) 1 false).settle =
          .error (.refused e) := by
        rw [settle_awaited, he]
        rfl
      refine .inr ⟨_, step_first h hd, hrefused, rfl, rfl, ?_, ?_⟩
      · exact fun _ ha => nomatch ha
      · exact fun _ ha => nomatch ha

/-- Where one value is taken, any other is that can be put into its field, and makes no difference
to the rest. -/
theorem parse_exchange (hfront : parse front = .ok c) (hs : "--" ∉ front) (hfree : c.has f = false)
    (hg₀ : c.Gives f text₀ token₀) (hg : c.Gives f text token) (hp₀ : c.put f text₀ = .ok c₀)
    (h : parse (front ++ token₀ :: back) = .ok c') (hc : Assigns f change)
    (hp : c.put f text = .ok (change c₀)) :
    parse (front ++ token :: back) = .ok (change c') := by
  obtain ⟨r, n, hr, hst, hz⟩ := exists_stands hfront hs
  have hread : ∀ {text token line}, c.Gives f text token → c.put f text = .ok line →
      ∃ r', (front ++ [token]).foldlM Reading.step {} = .ok r' ∧
        r'.Stands line (if f = .rate then 1 else n) false := by
    intro text token line hg hp
    obtain ⟨r', hr', hst'⟩ := hg.reads hst hz ((give_eq_put hfree text).trans hp)
    exact ⟨r', (foldlM_append hr _).trans (foldlM_step hr' []), hst'⟩
  obtain ⟨r₀, hr₀, hst₀⟩ := hread hg₀ hp₀
  obtain ⟨r', hr', hst'⟩ := hread hg hp
  have hheld : c₀.has f = true := (has_put hp₀ f).mpr (.inr rfl)
  rw [List.append_cons] at h ⊢
  exact parse_beside hc hr₀ hr' (.said hst₀ hst' fun _ : True => hheld) h fun _ => trivial

/-- Where one value is taken, any that cannot be put into its field is refused for what is wrong
with it. -/
theorem parse_exchange_refused {e : Refusal} (hfront : parse front = .ok c) (hs : "--" ∉ front)
    (hfree : c.has f = false) (hg₀ : c.Gives f text₀ token₀) (hg : c.Gives f text token)
    (h : parse (front ++ token₀ :: back) = .ok c') (he : c.put f text = .error e) :
    parse (front ++ token :: back) = .error (.refused e) := by
  obtain ⟨r, n, hr, hst, hz⟩ := exists_stands hfront hs
  obtain ⟨r₁, hr₁, _⟩ := bind_ok h
  rw [foldlM_append hr, List.foldlM_cons] at hr₁
  obtain ⟨r₀, hr₀, hback⟩ := bind_ok hr₁
  rw [parse, foldlM_append hr]
  rcases hg₀.stuck hg hst hz hr₀ ((give_eq_put hfree text).trans he) with hx | ⟨r', hr', hx⟩
  · rw [List.foldlM_cons, hx]
    rfl
  · rw [foldlM_step hr']
    have hend := hx.foldlM hback
    cases hy : back.foldlM Reading.step r' with
    | error e' =>
      rw [hy] at hend
      cases hend
      rfl
    | ok r₂ =>
      rw [hy] at hend
      have hend : r₂.settle = .error (.refused e) := hend
      simp only [Except.bind, hend]
      rfl

end MagicBaud.CommandLine

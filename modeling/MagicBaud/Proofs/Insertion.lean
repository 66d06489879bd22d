import MagicBaud.Proofs.Acceptance

namespace MagicBaud.CommandLine

variable {c c' : CommandLine} {s : Setting} {f g : Field} {change : CommandLine → CommandLine}

/-- A change that gives one field a value, whatever it has. -/
inductive Assigns : Field → (CommandLine → CommandLine) → Prop
  | rate (r : Rate) : Assigns .rate fun c => { c with layer.rate := some r }
  | port (path : String) : Assigns .port fun c => { c with layer.port := some path }
  | neutral (r : Rate) : Assigns .neutral fun c => { c with layer.neutral := some r }
  | settle (t : Millis) : Assigns .settle fun c => { c with layer.settle := some t }
  | config (path : String) : Assigns .config fun c => { c with config := some path }

theorem Setting.assigns (hf : s.field? = some f) : Assigns f s.addTo := by
  cases s with
  | neutral | settle | config =>
    cases hf
    constructor
  | list | verbose => cases hf

theorem Setting.free_of_has (hf : s.field? = some f) (h : c.has f = false) : s.Free c := by
  cases s with
  | neutral | settle | config =>
    cases hf
    exact Option.not_isSome_iff_eq_none.mp (Bool.not_eq_true _ ▸ h)
  | list | verbose => cases hf

namespace Assigns

theorem has (hc : Assigns f change) (hg : g ≠ f) : (change c).has g = c.has g := by
  cases hc <;> cases g <;> first | rfl | exact absurd rfl hg

theorem put {text : String} (hc : Assigns f change) (hg : g ≠ f) (h : c.put g text = .ok c') :
    (change c).put g text = .ok (change c') := by
  cases g with
  | rate | neutral | settle =>
    obtain ⟨x, hx, rfl⟩ := map_ok h
    simp only [CommandLine.put, hx, Except.map]
    cases hc <;> first | rfl | exact absurd rfl hg
  | port =>
    cases h
    cases hc <;> first | rfl | exact absurd rfl hg
  | config =>
    simp only [CommandLine.put] at h ⊢
    split at h
    · cases h
    · rename_i hn
      rw [if_neg hn]
      cases h
      cases hc <;> first | rfl | exact absurd rfl hg

theorem give {text : String} (hc : Assigns f change) (hg : g ≠ f) (h : c.give g text = .ok c') :
    (change c).give g text = .ok (change c') := by
  rw [give_eq_put ((hc.has hg).trans (free_of_give h))]
  exact hc.put hg (put_of_give h)

theorem raise {flag : Flag} {detailed : Bool} (hc : Assigns f change)
    (h : c.raise flag detailed = .ok c') :
    (change c).raise flag detailed = .ok (change c') := by
  cases flag with
  | help | version => cases h
  | list | verbose =>
    simp only [CommandLine.raise] at h
    split at h
    · cases h
    · rename_i hn
      cases h
      cases hc <;> exact if_neg hn

end Assigns

namespace Reading
variable {r r' r₁ : Reading} {token : String} {held : Prop}

/-- The reading with the change made in its line. -/
def after (change : CommandLine → CommandLine) (r : Reading) : Reading :=
  { r with line := change r.line }

/-- The second reading has a value of its own for the field, though it may not have looked at it.
The first one has another if `held`, or else none. -/
inductive Beside (f : Field) (change : CommandLine → CommandLine) (held : Prop) :
    Reading → Reading → Prop
  | said {r r' : Reading} {line : CommandLine} {n : Nat} {only : Bool} (h : r.Stands line n only)
      (h' : r'.Stands (change line) n only) (hl : held → line.has f = true) :
      Beside f change held r r'
  | made (r : Reading) (hl : held → r.line.has f = true) :
      Beside f change held r (r.after change)

/-- The outcome is the reading with the change made in its line. -/
structure Makes (f : Field) (change : CommandLine → CommandLine) (held : Prop) (r : Reading)
    (x : Except Reply Reading) : Prop where
  eq : x = .ok (r.after change)
  has : held → r.line.has f = true

theorem Makes.beside {x : Except Reply Reading} (h : Makes f change held r x) :
    ∃ r', x = .ok r' ∧ Beside f change held r r' :=
  ⟨_, h.eq, .made r h.has⟩

/-- The value that is awaited is not one for the field, which would then be given twice. -/
theorem settle_after (hc : Assigns f change) (hl : held → r.line.has f = true)
    (h : r.settle = .ok r₁) (hn : r₁.Has f → held) :
    Makes f change held r₁ (r.after change).settle := by
  have hline := (settle_keeps h).2.2
  refine ⟨?_, fun hh => (hline f).mpr (.inl (hl hh))⟩
  obtain ⟨ha, rfl⟩ | ⟨g, text, line, ha, hg, rfl⟩ := settle_cases h
  · simp only [settle, after, ha]
  · have hne : g ≠ f := by
      rintro rfl
      have hgiven : line.has g = true :=
        (hline g).mpr (.inr (congrArg (Option.map Prod.fst) ha))
      exact Bool.false_ne_true ((free_of_give hg).symm.trans (hl (hn (.inl hgiven))))
    simp only [settle, after, ha, hc.give hne hg]

namespace Beside

theorem awaited (h : Beside f change held r r') (ha : ∀ g, r.awaited ≠ some (g, none))
    (g : Field) : r'.awaited ≠ some (g, none) := by
  cases h with
  | said _ h' _ => exact h'.fields.2.2 g
  | made => exact ha g

/-- Where a value is still to come, the one before it has been looked at. -/
theorem eq_after (h : Beside f change held r r') (ha : r.awaited = some (g, none)) :
    r' = r.after change ∧ (held → r.line.has f = true) := by
  cases h with
  | said h _ _ => exact absurd ha (h.fields.2.2 g)
  | made hl => exact ⟨rfl, hl⟩

theorem fields (h : Beside f change held r r') :
    r'.words = r.words ∧ r'.onlyWords = r.onlyWords := by
  cases h with
  | said h h' _ =>
    obtain ⟨hw, ho, _⟩ := h.fields
    obtain ⟨hw', ho', _⟩ := h'.fields
    exact ⟨hw'.trans hw.symm, ho'.trans ho.symm⟩
  | made => exact ⟨rfl, rfl⟩

/-- Once the values have been looked at, both lines are known. -/
theorem settle (hc : Assigns f change) (hb : Beside f change held r r') (h : r.settle = .ok r₁)
    (hn : r₁.Has f → held) :
    Makes f change held r₁ r'.settle := by
  cases hb with
  | said hr hr' hl =>
    obtain rfl := Except.ok.inj (hr.symm.trans h)
    exact ⟨hr', hl⟩
  | made hl => exact settle_after hc hl h hn

theorem await {value : Option String} (hc : Assigns f change) (hb : Beside f change held r r')
    (h : r.await g value = .ok r₁) (hn : r₁.Has f → held) :
    Makes f change held r₁ (r'.await g value) := by
  obtain ⟨r₀, hs, rfl⟩ := map_ok h
  obtain ⟨_, ha, _⟩ := settle_keeps hs
  have hn₀ : r₀.Has f → held := fun h => hn (.inl (h.resolve_right (by simp [ha])))
  obtain ⟨hs', hl⟩ := hb.settle hc hs hn₀
  refine ⟨?_, hl⟩
  rw [Reading.await, hs']
  rfl

theorem attach {value : String} (hc : Assigns f change) (hb : Beside f change held r r')
    (h : r.attach g value = .ok r₁) (hn : r₁.Has f → held) :
    Makes f change held r₁ (r'.attach g value) := by
  obtain ⟨r₀, ha, hs⟩ := bind_ok h
  have hn₀ : r₀.Has f → held := fun h => hn ((settle_keeps hs).1.has f h)
  obtain ⟨ha', hl⟩ := hb.await hc ha hn₀
  rw [Reading.attach, ha']
  exact settle_after hc hl hs hn

theorem flag {flag : Flag} {detailed : Bool} (hc : Assigns f change)
    (hb : Beside f change held r r') (h : r.flag flag detailed = .ok r₁)
    (hn : r₁.Has f → held) :
    Makes f change held r₁ (r'.flag flag detailed) := by
  obtain ⟨r₀, hs, hm⟩ := bind_ok h
  obtain ⟨line, hr, rfl⟩ := map_ok hm
  have hhas : line.has f = r₀.line.has f := has_raise hr f
  obtain ⟨hs', hl⟩ := hb.settle hc hs fun h => hn (h.imp_left hhas.trans)
  refine ⟨?_, fun hh => hhas.trans (hl hh)⟩
  have hr' : (r₀.after change).line.raise flag detailed = .ok (change line) := hc.raise hr
  rw [Reading.flag, hs', Except.bind, hr']
  rfl

theorem long {name : String} {value : Option String} (hc : Assigns f change)
    (hb : Beside f change held r r') (h : r.long name value = .ok r₁) (hn : r₁.Has f → held) :
    Makes f change held r₁ (r'.long name value) := by
  unfold Reading.long at h ⊢
  split at h
  · cases h
  · exact hb.attach hc h hn
  · exact hb.await hc h hn
  · cases h
  · exact hb.flag hc h hn

/-- Induction on the letters of the token. -/
theorem short {letters : List Char} (hc : Assigns f change) (hb : Beside f change held r r')
    (h : short letters r = .ok r₁) (hn : r₁.Has f → held) :
    ∃ r₁', Reading.short letters r' = .ok r₁' ∧ Beside f change held r₁ r₁' := by
  induction letters generalizing r r' with
  | nil =>
    cases h
    exact ⟨r', rfl, hb⟩
  | cons letter letters ih =>
    unfold Reading.short at h ⊢
    split at h
    · cases h
    · obtain ⟨r₀, hflag, hs⟩ := bind_ok h
      have hn₀ : r₀.Has f → held := fun h => hn ((short_keeps hs).has f h)
      obtain ⟨hflag', hl⟩ := hb.flag hc hflag hn₀
      obtain ⟨r₁', hs', hb'⟩ := ih (.made r₀ hl) hs
      refine ⟨r₁', ?_, hb'⟩
      simp only [hflag']
      exact hs'
    · split at h
      · exact (hb.await hc h hn).beside
      · exact (hb.attach hc h hn).beside
      · exact (hb.attach hc h hn).beside

theorem word {text : String} (hc : Assigns f change) (hb : Beside f change held r r')
    (h : r.word text = .ok r₁) (hn : r₁.Has f → held) :
    Makes f change held r₁ (r'.word text) := by
  unfold Reading.word at h ⊢
  rw [hb.fields.1]
  split at h
  · obtain ⟨r₀, ha, rfl⟩ := map_ok h
    have hn₀ : r₀.Has f → held := hn
    obtain ⟨ha', hl⟩ := hb.await hc ha hn₀
    refine ⟨?_, hl⟩
    rw [ha']
    rfl
  · cases h

/-- What one of the readings takes, the other one takes as well. -/
theorem step (hc : Assigns f change) (hb : Beside f change held r r') (h : r.step token = .ok r₁)
    (hn : r₁.Has f → held) :
    ∃ r₁', r'.step token = .ok r₁' ∧ Beside f change held r₁ r₁' := by
  have ho := hb.fields.2
  by_cases honly : r.onlyWords = true
  · rw [step_onlyWords honly] at h
    rw [step_onlyWords (ho.trans honly)]
    exact (hb.word hc h hn).beside
  rw [Bool.not_eq_true] at honly
  have ho := ho.trans honly
  cases ht : Token.ofText token with
  | separator =>
    obtain rfl := Token.eq_of_separator ht
    rw [step_separator honly] at h
    cases h
    rw [step_separator ho]
    cases hb with
    | said h h' hl => exact ⟨_, rfl, .said h.separate h'.separate hl⟩
    | made hl => exact ⟨_, rfl, .made _ hl⟩
  | long name value =>
    rw [step_long honly ht] at h
    rw [step_long ho ht]
    exact (hb.long hc h hn).beside
  | short letters =>
    rw [step_short honly ht] at h
    rw [step_short ho ht]
    exact hb.short hc h hn
  | word text =>
    have hw : Token.ofText token = .word token :=
      Token.ofText_of_not_optionLike (Token.not_optionLike_of_word ht)
    -- The word is a value if one is still to come, and stands for itself if not.
    by_cases ha : ∃ g, r.awaited = some (g, none)
    · obtain ⟨g, ha⟩ := ha
      rw [step_value honly hw ha] at h
      cases h
      obtain ⟨rfl, hl⟩ := hb.eq_after ha
      exact ⟨_, step_value honly hw ha, .made _ hl⟩
    · rw [not_exists] at ha
      rw [step_word hw ha] at h
      rw [step_word hw (hb.awaited ha)]
      exact (hb.word hc h hn).beside

/-- Induction on the tokens. -/
theorem foldlM {tokens : List String} (hc : Assigns f change) (hb : Beside f change held r r')
    (h : tokens.foldlM Reading.step r = .ok r₁) (hn : r₁.Has f → held) :
    ∃ r₁', tokens.foldlM Reading.step r' = .ok r₁' ∧ Beside f change held r₁ r₁' := by
  induction tokens generalizing r r' with
  | nil =>
    cases h
    exact ⟨r', rfl, hb⟩
  | cons token tokens ih =>
    rw [List.foldlM_cons] at h
    obtain ⟨r₀, hs, ht⟩ := bind_ok h
    have hn₀ : r₀.Has f → held := fun h => hn ((foldlM_advances ht).1.has f h)
    obtain ⟨r₀', hs', hb₀⟩ := hb.step hc hs hn₀
    rw [foldlM_step hs']
    exact ih hb₀ ht

end Beside
end Reading

open Reading

variable {front group back : List String}

/-- Behind two beginnings that differ in the value of one field, what is taken behind the first is
taken behind the second, and makes no other difference. -/
theorem parse_beside {tokens tokens' : List String} {r r' : Reading} {held : Prop}
    (hc : Assigns f change) (hr : tokens.foldlM Reading.step {} = .ok r)
    (hr' : tokens'.foldlM Reading.step {} = .ok r') (hb : Beside f change held r r')
    (h : parse (tokens ++ back) = .ok c') (hn : c'.has f = true → held) :
    parse (tokens' ++ back) = .ok (change c') := by
  rw [parse, foldlM_append hr] at h
  obtain ⟨r₁, hback, hm⟩ := bind_ok h
  obtain ⟨r₂, hset, rfl⟩ := map_ok hm
  obtain ⟨_, ha, hhas⟩ := settle_keeps hset
  have hn₁ : r₁.Has f → held := fun hr₁ => hn ((hhas f).mpr hr₁)
  have hn₂ : r₂.Has f → held := fun hr₂ => hn (hr₂.resolve_right (by simp [ha]))
  obtain ⟨r₁', hback', hb₁⟩ := hb.foldlM hc hback hn₁
  rw [parse, foldlM_append hr', hback']
  exact congrArg (Except.map Reading.line) (hb₁.settle hc hset hn₂).eq

/-- A setting may be said at any place where no value is awaited, if the line has none. -/
theorem parse_insert (hfront : parse front = .ok c) (hs : "--" ∉ front)
    (h : parse (front ++ back) = .ok c') (hf : s.field? = some f) (hn : c'.has f = false)
    (hg : s.Spelled group) (hne : s ≠ .config "") :
    parse (front ++ group ++ back) = .ok (s.addTo c') := by
  obtain ⟨r, n, hr, hst, _⟩ := exists_stands hfront hs
  have hc : c.has f = false := by
    obtain ⟨r₁, hr₁, hm⟩ := bind_ok h
    obtain ⟨r₂, hset, rfl⟩ := map_ok hm
    rw [foldlM_append hr] at hr₁
    refine Bool.not_eq_true _ ▸ fun hc => Bool.false_ne_true (hn ▸ ?_)
    exact ((settle_keeps hset).2.2 f).mpr
      ((foldlM_advances hr₁).1.has f (((settle_keeps hst).2.2 f).mp hc))
  obtain ⟨r', hgroup, hst'⟩ := hg.reads hst (Setting.free_of_has hf hc) hne
  have hr' : (front ++ group).foldlM Reading.step {} = .ok r' :=
    (foldlM_append hr group).trans hgroup
  refine parse_beside (Setting.assigns hf) hr hr' (.said hst hst' False.elim) h ?_
  exact fun hh => Bool.false_ne_true (hn.symm.trans hh)

variable {ps qs : List Piece}

/-- Induction on what is said first, which no separator ends. -/
theorem Said.append {tokens more : List String} (h : Said tokens ps) (hs : "--" ∉ tokens)
    (hm : Said more qs) : Said (tokens ++ more) (ps ++ qs) := by
  induction h with
  | nil => exact hm
  | whole hw _ ih =>
    rw [List.append_assoc]
    exact .whole hw (ih fun h => hs (List.mem_cons_of_mem _ h))
  | apart ho hd _ ih =>
    rw [List.append_assoc]
    exact .apart ho hd (ih fun h => hs (List.mem_cons_of_mem _ (List.mem_cons_of_mem _ h)))
  | separated => exact absurd List.mem_cons_self hs

/-- What is said between the arguments is in the line, whatever is said around it. -/
theorem exists_accounts (hfront : parse front = .ok c) (hs : "--" ∉ front ++ group)
    (hg : Said group qs) (h : parse (front ++ group ++ back) = .ok c') :
    ∃ ps ps', Accounts (ps ++ qs ++ ps') c' := by
  obtain ⟨ps, hsaid⟩ := exists_said_of_parse hfront
  have hsaid := hsaid.append (fun h => hs (List.mem_append_left group h)) hg
  obtain ⟨r, hr, hm⟩ := bind_ok h
  obtain ⟨r₁, hset, _⟩ := map_ok hm
  rw [List.foldlM_append] at hr
  obtain ⟨r₀, hr₀, hback⟩ := bind_ok hr
  obtain ⟨only, hh⟩ := holds_start.said hsaid hr₀
  obtain rfl : false = only := ((foldlM_advances hr₀).2 hs).symm.trans hh.onlyWords
  obtain ⟨ps', hsaid'⟩ := (exists_said hback hset).1 hh
  exact ⟨ps, ps', accounts_of_parse (hsaid.append hs hsaid') h⟩

end MagicBaud.CommandLine

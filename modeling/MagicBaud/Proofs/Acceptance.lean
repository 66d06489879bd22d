import MagicBaud.Proofs.Ledger

namespace MagicBaud.CommandLine

namespace Reading
variable {r r' : Reading} {ps qs : List Piece} {f : Field} {only : Bool} {token text : String}

/-- What was said accounts for the line, once the value that is awaited has been looked at. -/
structure Holds (r : Reading) (ps : List Piece) (only : Bool) : Prop where
  onlyWords : r.onlyWords = only
  words : r.words = (Piece.words ps).length
  closed : ∀ f, r.awaited ≠ some (f, none)
  settled : ∀ r', r.settle = .ok r' → Accounts ps r'.line

/-- What was said accounts for the line, and the value of a field is still to be said. -/
structure Expects (r : Reading) (ps : List Piece) (f : Field) : Prop where
  onlyWords : r.onlyWords = false
  words : r.words = (Piece.words ps).length
  awaited : r.awaited = some (f, none)
  accounts : Accounts ps r.line

theorem holds_of_accounts (ho : r.onlyWords = only) (hw : r.words = (Piece.words ps).length)
    (ha : r.awaited = none) (hacc : Accounts ps r.line) : r.Holds ps only := by
  refine ⟨ho, hw, ?_, ?_⟩
  · intro f hf
    cases ha.symm.trans hf
  · intro r' hs
    rw [settle, ha] at hs
    cases hs
    exact hacc

/-- A value that is awaited and has been said is given to its field, if it is accepted. -/
theorem holds_of_give {line : CommandLine} {n : Nat} (hw : n = (Piece.words ps).length)
    (hg : ∀ line', line.give f text = .ok line' → Accounts ps line') :
    Holds ⟨line, some (f, some text), n, only⟩ ps only := by
  refine ⟨rfl, hw, ?_, ?_⟩
  · intro g hf
    cases hf
  · intro r' hs
    obtain ⟨ha, _⟩ | ⟨f', text', line', ha, hg', rfl⟩ := settle_cases hs
    · cases ha
    · cases ha
      exact hg line' hg'

theorem Holds.settle (h : r.Holds ps only) (hs : r.settle = .ok r') :
    r' = ⟨r'.line, none, (Piece.words ps).length, only⟩ ∧ Accounts ps r'.line := by
  obtain ⟨hk, ha, _⟩ := settle_keeps hs
  refine ⟨?_, h.settled r' hs⟩
  obtain ⟨line, awaited, words, onlyWords⟩ := r'
  obtain rfl : awaited = none := ha
  obtain rfl : words = _ := hk.words.trans h.words
  obtain rfl : onlyWords = _ := hk.onlyWords.trans h.onlyWords
  rfl

theorem Holds.await {value : Option String} (h : r.Holds ps only)
    (hr : r.await f value = .ok r') :
    r' = ⟨r'.line, some (f, value), (Piece.words ps).length, only⟩ ∧
      Accounts ps r'.line := by
  obtain ⟨r₁, hs, rfl⟩ := map_ok hr
  obtain ⟨he, hacc⟩ := h.settle hs
  refine ⟨?_, hacc⟩
  rw [he]

theorem Holds.expects (h : r.Holds ps false) (hr : r.await f none = .ok r') :
    r'.Expects ps f := by
  obtain ⟨he, hacc⟩ := h.await hr
  rw [he]
  exact ⟨rfl, rfl, rfl, hacc⟩

theorem Holds.attach {name : String} (h : r.Holds ps only) (hf : f.Named name)
    (hr : r.attach f text = .ok r') : r'.Holds (ps ++ [.value f text]) only := by
  obtain ⟨r₁, ha, hs⟩ := bind_ok hr
  obtain ⟨he, hacc⟩ := h.await ha
  have hw : (Piece.words ps).length = (Piece.words (ps ++ [.value f text])).length := by simp
  have hh : r₁.Holds (ps ++ [.value f text]) only := by
    rw [he]
    exact holds_of_give hw fun _ hg => hacc.value hf hg
  obtain ⟨he', hacc'⟩ := hh.settle hs
  rw [he']
  exact holds_of_accounts rfl rfl rfl hacc'

theorem Holds.flag {f : Flag} {detailed : Bool} (h : r.Holds ps only)
    (hr : r.flag f detailed = .ok r') : r'.Holds (ps ++ [.flag f]) only := by
  obtain ⟨r₁, hs, hm⟩ := bind_ok hr
  obtain ⟨line, hl, rfl⟩ := map_ok hm
  obtain ⟨he, hacc⟩ := h.settle hs
  have hw : (Piece.words ps).length = (Piece.words (ps ++ [.flag f])).length := by simp
  rw [he]
  exact holds_of_accounts rfl hw rfl (hacc.flag hl)

theorem Holds.word (h : r.Holds ps only) (hr : r.word text = .ok r') :
    r'.Holds (ps ++ [.word text]) only := by
  unfold Reading.word at hr
  split at hr
  · rename_i f hf
    rw [h.words] at hf
    obtain ⟨r₁, ha, rfl⟩ := map_ok hr
    obtain ⟨he, hacc⟩ := h.await ha
    have hw : (Piece.words ps).length + 1 = (Piece.words (ps ++ [.word text])).length := by simp
    rw [he]
    exact holds_of_give hw fun _ hg => hacc.word hf hg
  · cases hr

theorem Expects.value {name : String} (h : r.Expects ps f) (hf : f.Named name)
    (hd : ¬ OptionLike text) (hr : r.step text = .ok r') :
    r'.Holds (ps ++ [.value f text]) false := by
  obtain ⟨line, awaited, words, onlyWords⟩ := r
  obtain ⟨ho, hw, ha, hacc⟩ := h
  obtain rfl : onlyWords = false := ho
  obtain rfl : awaited = _ := ha
  simp only [step, Token.ofText_of_not_optionLike hd, Bool.false_eq_true, if_false] at hr
  cases hr
  have hw' : words = (Piece.words (ps ++ [.value f text])).length := by
    simpa using hw
  exact holds_of_give hw' fun _ hg => hacc.value hf hg

/-- Induction on the letters. -/
theorem Holds.letters {cs rest : List Char} (hl : Letters cs qs) (h : r.Holds ps only)
    (hr : short (cs ++ rest) r = .ok r') :
    ∃ r₁ : Reading, r₁.Holds (ps ++ qs) only ∧ short rest r₁ = .ok r' := by
  induction hl generalizing r ps with
  | nil =>
    rw [List.append_nil]
    exact ⟨r, h, hr⟩
  | list _ ih =>
    obtain ⟨r₁, hf, hs⟩ := bind_ok hr
    rw [List.append_cons]
    exact ih (h.flag hf) hs
  | verbose _ ih =>
    obtain ⟨r₁, hf, hs⟩ := bind_ok hr
    rw [List.append_cons]
    exact ih (h.flag hf) hs

theorem short_attached {c : Char} {cs : List Char} (hc : c ≠ '=') :
    short ('c' :: c :: cs) r = r.attach .config (String.ofList (c :: cs)) := by
  have ha : Argument.ofLetter? 'c' = some (.field .config) := rfl
  simp only [short, ha]
  split
  · rename_i he
    cases he
  · rename_i he
    cases he
    exact absurd rfl hc
  · rfl

theorem Holds.step_letters {cs rest : List Char} (h : r.Holds ps false) (hl : Letters cs qs)
    (hn : cs ++ rest ≠ []) (hc : ∀ d ∈ rest.head?, d ≠ '-')
    (hr : r.step (String.ofList ('-' :: (cs ++ rest))) = .ok r') :
    ∃ r₁ : Reading, r₁.Holds (ps ++ qs) false ∧ short rest r₁ = .ok r' := by
  rw [step_short h.onlyWords (hl.ofText hn hc)] at hr
  exact h.letters hl hr

theorem Holds.whole (h : r.Holds ps false) (hw : Whole token qs) (hr : r.step token = .ok r') :
    r'.Holds (ps ++ qs) false := by
  cases hw with
  | word hd =>
    rw [step_word (Token.ofText_of_not_optionLike hd) h.closed] at hr
    exact h.word hr
  | list =>
    have ht : Token.ofText "--list" = .long "list" none := rfl
    rw [step_long h.onlyWords ht] at hr
    exact h.flag hr
  | verbose =>
    have ht : Token.ofText "--verbose" = .long "verbose" none := rfl
    rw [step_long h.onlyWords ht] at hr
    exact h.flag hr
  | joined hf =>
    obtain ⟨s, rfl, hs⟩ := hf.setting
    rw [step_long h.onlyWords (Token.ofText_joined s _), long_attach hs] at hr
    exact h.attach hf hr
  | @letters cs _ hl hn =>
    rw [← List.append_nil cs] at hr
    obtain ⟨r₁, h₁, hs⟩ := h.step_letters hl (by simpa using hn) (by simp) hr
    cases hs
    exact h₁
  | attached hl hc =>
    obtain ⟨r₁, h₁, hs⟩ := h.step_letters hl (by simp) (by simp) hr
    rw [short_attached hc] at hs
    rw [← List.append_assoc]
    exact h₁.attach .config hs
  | equals hl =>
    obtain ⟨r₁, h₁, hs⟩ := h.step_letters hl (by simp) (by simp) hr
    rw [← List.append_assoc]
    exact h₁.attach .config hs

theorem Holds.opens (h : r.Holds ps false) (ho : Opens token qs f) (hr : r.step token = .ok r') :
    r'.Expects (ps ++ qs) f := by
  cases ho with
  | name hf =>
    obtain ⟨s, rfl, hs⟩ := hf.setting
    rw [step_long h.onlyWords (Token.ofText_name s), long_await hs] at hr
    rw [List.append_nil]
    exact h.expects hr
  | letter hl =>
    obtain ⟨r₁, h₁, hs⟩ := h.step_letters hl (by simp) (by simp) hr
    exact h₁.expects hs

theorem Holds.separate (h : r.Holds ps only) : Holds { r with onlyWords := true } ps true := by
  refine ⟨rfl, h.words, h.closed, ?_⟩
  intro r' hs
  obtain ⟨ha, rfl⟩ | ⟨f, text, line, ha, hg, rfl⟩ := settle_cases hs
  · have ha : r.awaited = none := ha
    refine h.settled r ?_
    rw [Reading.settle, ha]
  · have ha : r.awaited = some (f, some text) := ha
    have hg : r.line.give f text = .ok line := hg
    refine h.settled { r with line := line, awaited := none } ?_
    simp only [Reading.settle, ha, hg]

/-- Induction on the tokens behind a separator. -/
theorem Holds.onlyWords_said {tokens : List String} (h : r.Holds ps true)
    (hr : tokens.foldlM step r = .ok r') : r'.Holds (ps ++ tokens.map .word) true := by
  induction tokens generalizing r ps with
  | nil =>
    cases hr
    rw [List.map_nil, List.append_nil]
    exact h
  | cons token tokens ih =>
    rw [List.foldlM_cons] at hr
    obtain ⟨r₁, h₁, h₂⟩ := bind_ok hr
    rw [step_onlyWords h.onlyWords] at h₁
    rw [List.map_cons, List.append_cons]
    exact ih (h.word h₁) h₂

/-- Induction on what is said. -/
theorem Holds.said {tokens : List String} (hs : Said tokens qs) (h : r.Holds ps false)
    (hr : tokens.foldlM step r = .ok r') : ∃ only, r'.Holds (ps ++ qs) only := by
  induction hs generalizing r ps with
  | nil =>
    cases hr
    rw [List.append_nil]
    exact ⟨false, h⟩
  | whole hw _ ih =>
    rw [List.foldlM_cons] at hr
    obtain ⟨r₁, h₁, h₂⟩ := bind_ok hr
    rw [← List.append_assoc]
    exact ih (h.whole hw h₁) h₂
  | apart ho hd _ ih =>
    rw [List.foldlM_cons] at hr
    obtain ⟨r₁, h₁, hr⟩ := bind_ok hr
    rw [List.foldlM_cons] at hr
    obtain ⟨r₂, h₂, h₃⟩ := bind_ok hr
    rw [← List.append_assoc, List.append_cons]
    obtain ⟨name, hf⟩ := ho.named
    exact ih ((h.opens ho h₁).value hf hd h₂) h₃
  | separated tokens =>
    rw [List.foldlM_cons, step_separator h.onlyWords] at hr
    exact ⟨true, h.separate.onlyWords_said hr⟩

end Reading

namespace Reading
variable {r r' : Reading} {ps : List Piece} {f : Field} {tokens : List String} {token : String}

/-- Help and version are no flags of a command line that is accepted. -/
theorem flag_eq (g : Flag) {detailed : Bool} (h : r.flag g detailed = .ok r') :
    g = .list ∨ g = .verbose := by
  obtain ⟨r₁, _, hm⟩ := bind_ok h
  obtain ⟨line, hr, _⟩ := map_ok hm
  cases g with
  | list => exact .inl rfl
  | verbose => exact .inr rfl
  | help | version => cases hr

theorem whole_of_name {name : String} {g : Flag} {detailed : Bool}
    (hn : Argument.ofName? name = some (.flag g)) (h : r.flag g detailed = .ok r') :
    Whole ("--" ++ name) [.flag g] := by
  have hg := flag_eq g h
  unfold Argument.ofName? at hn
  repeat' split at hn
  all_goals cases hn
  all_goals
    rename_i hn
    subst hn
  · exact .list
  · exact .verbose
  · rcases hg with hg | hg <;> cases hg
  · rcases hg with hg | hg <;> cases hg

theorem letters_of_letter {c : Char} {cs : List Char} {g : Flag} {detailed : Bool}
    (hc : Argument.ofLetter? c = some (.flag g)) (h : r.flag g detailed = .ok r')
    (hl : Letters cs ps) : Letters (c :: cs) (.flag g :: ps) := by
  have hg := flag_eq g h
  unfold Argument.ofLetter? at hc
  repeat' split at hc
  all_goals cases hc
  all_goals
    rename_i hc
    subst hc
  · exact .list hl
  · exact .verbose hl
  · rcases hg with hg | hg <;> cases hg
  · rcases hg with hg | hg <;> cases hg

/-- Either a token says all by itself, or it names a field whose value is the next token. -/
theorem exists_of_long {name : String} {value : Option String}
    (ht : Token.ofText token = .long name value) (h : r.long name value = .ok r') :
    (∃ qs, Whole token qs) ∨ ∃ qs f, Opens token qs f := by
  obtain rfl := Token.eq_of_long ht
  unfold long at h
  split at h
  · cases h
  · rename_i f text ha
    rw [Option.elim_some, ← String.append_assoc]
    exact .inl ⟨_, .joined (Field.named_of_name ha)⟩
  · rename_i f ha
    rw [Option.elim_none, String.append_empty]
    exact .inr ⟨_, _, .name (Field.named_of_name ha)⟩
  · cases h
  · rename_i g ha
    rw [Option.elim_none, String.append_empty]
    exact .inl ⟨_, whole_of_name ha h⟩

/-- Induction on the letters. -/
theorem exists_letters {cs : List Char} (h : short cs r = .ok r') :
    (∃ qs, Letters cs qs) ∨ ∃ before qs after, cs = before ++ 'c' :: after ∧ Letters before qs := by
  induction cs generalizing r with
  | nil => exact .inl ⟨_, .nil⟩
  | cons c cs ih =>
    unfold short at h
    split at h
    · cases h
    · rename_i g hc
      obtain ⟨r₁, hf, hs⟩ := bind_ok h
      rcases ih hs with ⟨qs, hl⟩ | ⟨before, qs, after, rfl, hl⟩
      · exact .inl ⟨_, letters_of_letter hc hf hl⟩
      · exact .inr ⟨c :: before, _, after, rfl, letters_of_letter hc hf hl⟩
    · rename_i f hc
      obtain rfl := Field.eq_of_letter hc
      exact .inr ⟨[], [], cs, rfl, .nil⟩

theorem exists_of_short {cs : List Char} (ht : Token.ofText token = .short cs)
    (h : short cs r = .ok r') : (∃ qs, Whole token qs) ∨ ∃ qs f, Opens token qs f := by
  obtain ⟨rfl, hn⟩ := Token.eq_of_short ht
  rcases exists_letters h with ⟨qs, hl⟩ | ⟨before, qs, after, rfl, hl⟩
  · exact .inl ⟨qs, .letters hl hn⟩
  · rcases after with _ | ⟨c, after⟩
    · exact .inr ⟨qs, _, .letter hl⟩
    · by_cases hc : c = '='
      · rw [hc]
        exact .inl ⟨_, .equals hl⟩
      · exact .inl ⟨_, .attached hl hc⟩

theorem exists_of_step (ho : r.onlyWords = false) (h : r.step token = .ok r') :
    token = "--" ∨ (∃ qs, Whole token qs) ∨ ∃ qs f, Opens token qs f := by
  cases ht : Token.ofText token with
  | separator => exact .inl (Token.eq_of_separator ht)
  | long name value =>
    rw [step_long ho ht] at h
    exact .inr (exists_of_long ht h)
  | short letters =>
    rw [step_short ho ht] at h
    exact .inr (exists_of_short ht h)
  | word text => exact .inr (.inl ⟨_, .word (Token.not_optionLike_of_word ht)⟩)

/-- What begins has the awaited value looked at, so that a value which was never said is not passed
over. -/
theorem settled_of_await {value : Option String} (h : r.await f value = .ok r') :
    ∃ r₁, r.settle = .ok r₁ :=
  (map_ok h).imp fun _ => And.left

theorem settled_of_attach {text : String} (h : r.attach f text = .ok r') :
    ∃ r₁, r.settle = .ok r₁ := by
  obtain ⟨r₁, ha, _⟩ := bind_ok h
  exact settled_of_await ha

theorem settled_of_flag {g : Flag} {detailed : Bool} (h : r.flag g detailed = .ok r') :
    ∃ r₁, r.settle = .ok r₁ :=
  (bind_ok h).imp fun _ => And.left

theorem settled_of_long {name : String} {value : Option String} (h : r.long name value = .ok r') :
    ∃ r₁, r.settle = .ok r₁ := by
  unfold long at h
  split at h
  · cases h
  · exact settled_of_attach h
  · exact settled_of_await h
  · cases h
  · exact settled_of_flag h

theorem settled_of_short {cs : List Char} (hn : cs ≠ []) (h : short cs r = .ok r') :
    ∃ r₁, r.settle = .ok r₁ := by
  obtain ⟨c, cs, rfl⟩ := List.exists_cons_of_ne_nil hn
  unfold short at h
  split at h
  · cases h
  · obtain ⟨_, hf, _⟩ := bind_ok h
    exact settled_of_flag hf
  · split at h
    · exact settled_of_await h
    · exact settled_of_attach h
    · exact settled_of_attach h

theorem settled_of_word {text : String} (h : r.word text = .ok r') :
    ∃ r₁, r.settle = .ok r₁ := by
  unfold word at h
  split at h
  · obtain ⟨_, ha, _⟩ := map_ok h
    exact settled_of_await ha
  · cases h

theorem not_settled (ha : r.awaited = some (f, none)) : ¬ ∃ r₁, r.settle = .ok r₁ := by
  rintro ⟨r₁, hs⟩
  simp only [settle, ha] at hs
  cases hs

/-- Nothing can be said behind a separator that stands in the place of a value. -/
theorem not_settled_behind {r₁ : Reading} (ha : r.awaited = some (f, none))
    (ho : r.onlyWords = true) (hr : tokens.foldlM step r = .ok r') : r'.settle ≠ .ok r₁ := by
  intro hs
  cases tokens with
  | nil =>
    cases hr
    exact not_settled ha ⟨r₁, hs⟩
  | cons token tokens =>
    rw [List.foldlM_cons] at hr
    obtain ⟨r₂, h₁, _⟩ := bind_ok hr
    rw [step_onlyWords ho] at h₁
    exact not_settled ha (settled_of_word h₁)

/-- Only a word is taken for a value. -/
theorem Expects.not_optionLike {r₁ : Reading} (h : r.Expects ps f)
    (hr : (token :: tokens).foldlM step r = .ok r') (hs : r'.settle = .ok r₁) :
    ¬ OptionLike token := by
  rw [List.foldlM_cons] at hr
  obtain ⟨r₂, h₁, h₂⟩ := bind_ok hr
  cases ht : Token.ofText token with
  | separator =>
    rw [Token.eq_of_separator ht, step_separator h.onlyWords] at h₁
    cases h₁
    have ha : ({ r with onlyWords := true } : Reading).awaited = some (f, none) := h.awaited
    exact absurd hs (not_settled_behind ha rfl h₂)
  | long name value =>
    rw [step_long h.onlyWords ht] at h₁
    exact absurd (settled_of_long h₁) (not_settled h.awaited)
  | short letters =>
    rw [step_short h.onlyWords ht] at h₁
    exact absurd (settled_of_short (Token.eq_of_short ht).2 h₁) (not_settled h.awaited)
  | word text => exact Token.not_optionLike_of_word ht

/-- Induction on the tokens, for a reading that expects a value and for one that does not. -/
theorem exists_said {r₁ : Reading} (hr : tokens.foldlM step r = .ok r')
    (hs : r'.settle = .ok r₁) :
    (r.Holds ps false → ∃ qs, Said tokens qs) ∧
      ∀ f name, f.Named name → r.Expects ps f →
        ∃ text rest qs, tokens = text :: rest ∧ ¬ OptionLike text ∧ Said rest qs := by
  induction tokens generalizing r ps with
  | nil =>
    cases hr
    refine ⟨fun _ => ⟨[], .nil⟩, ?_⟩
    intro f name _ h
    exact absurd ⟨r₁, hs⟩ (not_settled h.awaited)
  | cons token tokens ih =>
    have hfold := hr
    rw [List.foldlM_cons] at hr
    obtain ⟨r₂, h₁, h₂⟩ := bind_ok hr
    constructor
    · intro h
      rcases exists_of_step h.onlyWords h₁ with rfl | ⟨qs, hw⟩ | ⟨qs, f, ho⟩
      · exact ⟨_, .separated tokens⟩
      · obtain ⟨qs', hs'⟩ := (ih h₂).1 (h.whole hw h₁)
        exact ⟨_, .whole hw hs'⟩
      · obtain ⟨name, hf⟩ := ho.named
        obtain ⟨text, rest, qs', rfl, hd, hs'⟩ := (ih h₂).2 f name hf (h.opens ho h₁)
        exact ⟨_, .apart ho hd hs'⟩
    · intro f name hf h
      have hd := h.not_optionLike hfold hs
      obtain ⟨qs, hs'⟩ := (ih h₂).1 (h.value hf hd h₁)
      exact ⟨token, tokens, qs, rfl, hd, hs'⟩

end Reading

open Reading

variable {tokens : List String} {ps : List Piece} {c : CommandLine}

theorem holds_start : Holds {} [] false := holds_of_accounts rfl rfl rfl Accounts.start

theorem exists_said_of_parse (h : parse tokens = .ok c) : ∃ ps, Said tokens ps := by
  obtain ⟨r, hr, hm⟩ := bind_ok h
  obtain ⟨r₁, hs, _⟩ := map_ok hm
  exact (exists_said hr hs).1 holds_start

theorem accounts_of_parse (hs : Said tokens ps) (h : parse tokens = .ok c) : Accounts ps c := by
  obtain ⟨r, hr, hm⟩ := bind_ok h
  obtain ⟨r₁, hset, rfl⟩ := map_ok hm
  obtain ⟨only, hh⟩ := holds_start.said hs hr
  exact hh.settled r₁ hset

/-- What is accepted can be taken apart into what its tokens say, and all that was said is then in
the command line, once each. -/
theorem parse_accounts (tokens : List String) :
    (∀ c, parse tokens = .ok c → ∃ ps, Said tokens ps) ∧
    ∀ ps, Said tokens ps →
      Gathered tokens (Piece.words ps) ∧
      (∀ c, parse tokens = .ok c →
        Accounts ps c ∧ (c.layer.port.isSome → c.layer.rate.isSome)) ∧
      (Unacceptable ps → ∀ c, parse tokens ≠ .ok c) := by
  refine ⟨fun c h => exists_said_of_parse h, ?_⟩
  intro ps hs
  refine ⟨hs.gathered, ?_, ?_⟩
  · intro c h
    have hacc := accounts_of_parse hs h
    exact ⟨hacc, hacc.placed.rate_of_port⟩
  · intro hu c h
    exact (accounts_of_parse hs h).acceptable hu

/-- Letters with a path in the next token, and a port that begins with a dash; and a flag that is
given by its letter and by its name. -/
theorem parse_accounts_letters :
    let tokens := ["-vc", "a=b", "+9600", "--neutral-baud=Touch", "--settle-ms", "007", "--", "-p"]
    let ps : List Piece := [.flag .verbose, .value .config "a=b", .word "+9600",
      .value .neutral "Touch", .value .settle "007", .word "-p"]
    let c : CommandLine :=
      { layer := { rate := some ⟨9600, by decide⟩, port := some "-p",
                   neutral := some ⟨1200, by decide⟩, settle := some ⟨7, by decide⟩ }
        config := some "a=b", verbose := true }
    Said tokens ps ∧ parse tokens = .ok c ∧ Gathered tokens ["+9600", "-p"] ∧ Accounts ps c ∧
      ∀ c, parse ["-lv", "1200", "--list"] ≠ .ok c := by
  intro tokens ps c
  have hs : Said tokens ps := by
    have hn : Whole ("--neutral-baud" ++ "=" ++ "Touch") [.value .neutral "Touch"] :=
      .joined .neutral
    refine .apart (.letter (.verbose .nil)) (by simp [OptionLike]) ?_
    refine .whole (.word (by simp [OptionLike])) (.whole hn ?_)
    exact .apart (.name .settle) (by simp [OptionLike]) (.separated ["-p"])
  have hp : parse tokens = .ok c := by decide
  obtain ⟨hg, hacc, _⟩ := (parse_accounts tokens).2 ps hs
  refine ⟨hs, hp, hg, (hacc c hp).1, ?_⟩
  have hs' : Said ["-lv", "1200", "--list"]
      [.flag .list, .flag .verbose, .word "1200", .flag .list] := by
    refine .whole (.letters (.list (.verbose .nil)) (by simp)) ?_
    exact .whole (.word (by simp [OptionLike])) (.whole .list .nil)
  exact ((parse_accounts _).2 _ hs').2.2 (.repeated (.flag .list) (by decide))

end MagicBaud.CommandLine

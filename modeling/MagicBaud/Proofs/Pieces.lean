import MagicBaud.Proofs.Appending

namespace MagicBaud.CommandLine

/-- What is said in a command line: a word has its meaning from its place, a value has it from the
name before it. -/
inductive Piece where
  | word (text : String)
  | value (f : Field) (text : String)
  | flag (f : Flag)
  deriving DecidableEq

namespace Piece

def word? : Piece → Option String
  | .word text => some text
  | .value _ _ => none
  | .flag _ => none

/-- The text that is given for a field under its name. -/
def text? (f : Field) : Piece → Option String
  | .word _ => none
  | .value g text => if g = f then some text else none
  | .flag _ => none

def argument? : Piece → Option Argument
  | .word _ => none
  | .value f _ => some (.field f)
  | .flag f => some (.flag f)

def words (ps : List Piece) : List String := ps.filterMap word?

def texts (f : Field) (ps : List Piece) : List String := ps.filterMap (text? f)

/-- How often an argument with a name is given, by whatever name. -/
def given (a : Argument) (ps : List Piece) : Nat := ps.countP (·.argument? = some a)

variable {ps : List Piece}

theorem given_field (f : Field) (ps : List Piece) : given (.field f) ps = (texts f ps).length := by
  rw [given, texts, List.length_filterMap_eq_countP]
  refine List.countP_congr fun p _ => ?_
  cases p with
  | word text => simp [argument?, text?]
  | flag g => simp [argument?, text?]
  | value g text => by_cases hg : g = f <;> simp [argument?, text?, hg]

theorem given_flag_eq_zero {f : Flag} (h : .flag f ∉ ps) : given (.flag f) ps = 0 := by
  refine List.countP_eq_zero.mpr fun p hp ha => ?_
  cases p with
  | word text => simp [argument?] at ha
  | value g text => simp [argument?] at ha
  | flag g =>
    simp only [argument?, Option.some.injEq, Argument.flag.injEq, decide_eq_true_eq] at ha
    exact h (ha ▸ hp)

theorem once_append {p : Piece} (h : ∀ a, given a ps ≤ 1)
    (hp : ∀ a, p.argument? = some a → given a ps = 0) (a : Argument) :
    given a (ps ++ [p]) ≤ 1 := by
  by_cases ha : p.argument? = some a
  · simpa [given, List.countP_append, List.countP_singleton, ha] using hp a ha
  · simpa [given, List.countP_append, List.countP_singleton, ha] using h a

@[simp] theorem words_append_word (text : String) :
    words (ps ++ [.word text]) = words ps ++ [text] := by
  simp [words, word?]

@[simp] theorem words_append_value (f : Field) (text : String) :
    words (ps ++ [.value f text]) = words ps := by
  simp [words, word?]

@[simp] theorem words_append_flag (f : Flag) : words (ps ++ [.flag f]) = words ps := by
  simp [words, word?]

@[simp] theorem texts_append_word (f : Field) (text : String) :
    texts f (ps ++ [.word text]) = texts f ps := by
  simp [texts, text?]

@[simp] theorem texts_append_value (f g : Field) (text : String) :
    texts g (ps ++ [.value f text]) = texts g ps ++ if f = g then [text] else [] := by
  by_cases hg : f = g <;> simp [texts, text?, hg]

@[simp] theorem texts_append_flag (f : Field) (g : Flag) :
    texts f (ps ++ [.flag g]) = texts f ps := by
  simp [texts, text?]

end Piece

/-- The long names of what takes a value. -/
inductive Field.Named : Field → String → Prop
  | neutral : Named .neutral "--neutral-baud"
  | settle : Named .settle "--settle-ms"
  | config : Named .config "--config"

/-- Letters that stand for flags. -/
inductive Letters : List Char → List Piece → Prop
  | nil : Letters [] []
  | list {cs : List Char} {ps : List Piece} (rest : Letters cs ps) :
      Letters ('l' :: cs) (.flag .list :: ps)
  | verbose {cs : List Char} {ps : List Piece} (rest : Letters cs ps) :
      Letters ('v' :: cs) (.flag .verbose :: ps)

/-- What a token says by itself. -/
inductive Whole : String → List Piece → Prop
  | word {token : String} (h : ¬ OptionLike token) : Whole token [.word token]
  | list : Whole "--list" [.flag .list]
  | verbose : Whole "--verbose" [.flag .verbose]
  | joined {f : Field} {name text : String} (hf : f.Named name) :
      Whole (name ++ "=" ++ text) [.value f text]
  | letters {cs : List Char} {ps : List Piece} (h : Letters cs ps) (hn : cs ≠ []) :
      Whole (String.ofList ('-' :: cs)) ps
  | attached {cs : List Char} {ps : List Piece} {c : Char} {text : List Char} (h : Letters cs ps)
      (hc : c ≠ '=') : Whole (String.ofList ('-' :: (cs ++ 'c' :: c :: text)))
        (ps ++ [.value .config (String.ofList (c :: text))])
  | equals {cs : List Char} {ps : List Piece} {text : List Char} (h : Letters cs ps) :
      Whole (String.ofList ('-' :: (cs ++ 'c' :: '=' :: text)))
        (ps ++ [.value .config (String.ofList text)])

/-- What a token says before it names a field whose value is the next token. -/
inductive Opens : String → List Piece → Field → Prop
  | name {f : Field} {name : String} (hf : f.Named name) : Opens name [] f
  | letter {cs : List Char} {ps : List Piece} (h : Letters cs ps) :
      Opens (String.ofList ('-' :: (cs ++ ['c']))) ps .config

/-- What the tokens say, from the left to the right. Behind a separator there are only words. -/
inductive Said : List String → List Piece → Prop
  | nil : Said [] []
  | whole {token : String} {tokens : List String} {qs ps : List Piece} (h : Whole token qs)
      (rest : Said tokens ps) : Said (token :: tokens) (qs ++ ps)
  | apart {token text : String} {tokens : List String} {qs ps : List Piece} {f : Field}
      (h : Opens token qs f) (hd : ¬ OptionLike text) (rest : Said tokens ps) :
      Said (token :: text :: tokens) (qs ++ .value f text :: ps)
  | separated (tokens : List String) : Said ("--" :: tokens) (tokens.map .word)

theorem Token.ofText_letters {c : Char} {cs : List Char} (hc : c ≠ '-') :
    ofText (String.ofList ('-' :: c :: cs)) = .short (c :: cs) := by
  unfold ofText
  rw [String.toList_ofList]
  split
  · rename_i hs
    cases hs
    exact absurd rfl hc
  · rename_i hs
    cases hs
    exact absurd rfl hc
  · rename_i hs
    cases hs
    rfl
  · rename_i hs
    exact absurd rfl (hs c cs)

theorem Letters.ofText {cs rest : List Char} {ps : List Piece} (h : Letters cs ps)
    (hn : cs ++ rest ≠ []) (hc : ∀ d ∈ rest.head?, d ≠ '-') :
    Token.ofText (String.ofList ('-' :: (cs ++ rest))) = .short (cs ++ rest) := by
  cases h with
  | list | verbose => exact Token.ofText_letters (by decide)
  | nil =>
    cases rest with
    | nil => exact absurd rfl hn
    | cons c cs => exact Token.ofText_letters (hc c rfl)

/-- The names are those of the settings that can be written. -/
theorem Field.Named.setting {f : Field} {name : String} (h : f.Named name) :
    ∃ s : Setting, s.name = name ∧ s.field? = some f := by
  cases h with
  | neutral => exact ⟨.neutral Rate.neutral, rfl, rfl⟩
  | settle => exact ⟨.settle Millis.zero, rfl, rfl⟩
  | config => exact ⟨.config "", rfl, rfl⟩

theorem Opens.named {token : String} {ps : List Piece} {f : Field} (h : Opens token ps f) :
    ∃ name, f.Named name := by
  cases h with
  | name hf => exact ⟨_, hf⟩
  | letter _ => exact ⟨_, .config⟩

theorem cut_eq (c : Char) (cs : List Char) :
    cs = (Text.cut c cs).1 ++ (Text.cut c cs).2.elim [] (c :: ·) := by
  induction cs with
  | nil => rfl
  | cons b cs ih =>
    unfold Text.cut
    split
    · rename_i hb
      rw [hb]
      rfl
    · exact congrArg (b :: ·) ih

theorem Token.eq_of_long {token name : String} {value : Option String}
    (h : ofText token = .long name value) :
    token = "--" ++ name ++ value.elim "" ("=" ++ ·) := by
  unfold ofText at h
  split at h
  · cases h
  · rename_i cs _ hs
    have hcut := cut_eq '=' cs
    rcases hp : Text.cut '=' cs with ⟨before, after⟩
    rw [hp] at h hcut
    cases h
    refine String.toList_inj.mp ?_
    rw [hs, hcut]
    cases after <;> simp
  · cases h
  · cases h

theorem Token.eq_of_short {token : String} {letters : List Char}
    (h : ofText token = .short letters) :
    token = String.ofList ('-' :: letters) ∧ letters ≠ [] := by
  unfold ofText at h
  split at h
  · cases h
  · cases h
  · rename_i c cs _ _ hs
    cases h
    rw [← hs, String.ofList_toList]
    exact ⟨rfl, List.cons_ne_nil c cs⟩
  · cases h

theorem Token.not_optionLike_of_word {token text : String} (h : ofText token = .word text) :
    ¬ OptionLike token := by
  rintro ⟨c, cs, hs⟩
  unfold ofText at h
  split at h
  · cases h
  · cases h
  · cases h
  · rename_i hn
    exact hn _ _ hs

theorem Field.named_of_name {name : String} {f : Field}
    (h : Argument.ofName? name = some (.field f)) : f.Named ("--" ++ name) := by
  unfold Argument.ofName? at h
  repeat' split at h
  all_goals cases h
  all_goals
    rename_i hn
    subst hn
  · exact .neutral
  · exact .settle
  · exact .config

theorem Field.eq_of_letter {letter : Char} {f : Field}
    (h : Argument.ofLetter? letter = some (.field f)) : letter = 'c' := by
  unfold Argument.ofLetter? at h
  repeat' split at h
  all_goals cases h
  assumption

section
variable {tokens : List String} {ps : List Piece}

/-- The words are all tokens behind the first separator, and before it some that do not look like
options. -/
def Gathered (tokens ws : List String) : Prop :=
  ∃ early, ws = early ++ (tokens.dropWhile (· ≠ "--")).tail ∧
    early.Sublist (tokens.takeWhile (· ≠ "--")) ∧ ∀ token ∈ early, ¬ OptionLike token

theorem Token.ne_separator {token : String} {t : Token} (h : ofText token = t)
    (ht : t ≠ .separator) : token ≠ "--" := by
  rintro rfl
  exact ht h.symm

theorem ne_separator_of_not_optionLike {token : String} (h : ¬ OptionLike token) :
    token ≠ "--" :=
  Token.ne_separator (Token.ofText_of_not_optionLike h) (by simp)

theorem Letters.ne_separator {cs rest : List Char} (h : Letters cs ps) (hn : cs ++ rest ≠ [])
    (hc : ∀ d ∈ rest.head?, d ≠ '-') : String.ofList ('-' :: (cs ++ rest)) ≠ "--" :=
  Token.ne_separator (h.ofText hn hc) (by simp)

theorem Opens.ne_separator {token : String} {f : Field} (h : Opens token ps f) :
    token ≠ "--" := by
  cases h with
  | name hf => cases hf <;> decide
  | letter hl => exact hl.ne_separator (by simp) (by simp)

theorem Whole.ne_separator {token : String} (h : Whole token ps) : token ≠ "--" := by
  cases h with
  | word hd => exact ne_separator_of_not_optionLike hd
  | list | verbose => decide
  | joined hf =>
    obtain ⟨s, rfl, _⟩ := hf.setting
    exact Token.ne_separator (Token.ofText_joined s _) (by simp)
  | @letters cs _ hl hn =>
    rw [← List.append_nil cs]
    exact hl.ne_separator (by simpa using hn) (by simp)
  | attached hl _ => exact hl.ne_separator (by simp) (by simp)
  | equals hl => exact hl.ne_separator (by simp) (by simp)

theorem Letters.words {cs : List Char} (h : Letters cs ps) : Piece.words ps = [] := by
  induction h with
  | nil => rfl
  | list _ ih => exact ih
  | verbose _ ih => exact ih

theorem words_map_word (ws : List String) : Piece.words (ws.map .word) = ws := by
  rw [Piece.words, List.filterMap_map]
  exact List.filterMap_some

theorem Whole.words {token : String} (h : Whole token ps) :
    Piece.words ps = [] ∨ Piece.words ps = [token] ∧ ¬ OptionLike token := by
  cases h with
  | word hd => exact .inr ⟨rfl, hd⟩
  | list | verbose | joined _ => exact .inl rfl
  | letters hl _ => exact .inl hl.words
  | attached hl _ | equals hl =>
    left
    rw [Piece.words_append_value, hl.words]

theorem Opens.words {token : String} {f : Field} (h : Opens token ps f) : Piece.words ps = [] := by
  cases h with
  | name _ => rfl
  | letter hl => exact hl.words

theorem Gathered.skip {token : String} {ws : List String} (h : Gathered tokens ws)
    (hn : token ≠ "--") : Gathered (token :: tokens) ws := by
  obtain ⟨early, he, hs, hd⟩ := h
  refine ⟨early, ?_, ?_, hd⟩
  · simpa [hn] using he
  · simpa [hn] using hs.cons token

theorem Gathered.take {token : String} {ws : List String} (h : Gathered tokens ws)
    (hd : ¬ OptionLike token) : Gathered (token :: tokens) (token :: ws) := by
  obtain ⟨early, he, hs, hd'⟩ := h
  have hn := ne_separator_of_not_optionLike hd
  refine ⟨token :: early, ?_, ?_, List.forall_mem_cons.mpr ⟨hd, hd'⟩⟩
  · simpa [hn] using he
  · simpa [hn] using hs

/-- Induction on what is said. -/
theorem Said.gathered (h : Said tokens ps) : Gathered tokens (Piece.words ps) := by
  induction h with
  | nil => exact ⟨[], rfl, .slnil, by simp⟩
  | whole hw _ ih =>
    rw [Piece.words, List.filterMap_append, ← Piece.words, ← Piece.words]
    rcases hw.words with he | ⟨he, hd⟩
    · rw [he]
      exact ih.skip hw.ne_separator
    · rw [he]
      exact ih.take hd
  | @apart _ text _ qs ps f ho hd _ ih =>
    have he : Piece.words (qs ++ .value f text :: ps) = Piece.words ps := by
      rw [Piece.words, List.filterMap_append, ← Piece.words, ho.words]
      rfl
    rw [he]
    exact (ih.skip (ne_separator_of_not_optionLike hd)).skip ho.ne_separator
  | separated ws =>
    rw [words_map_word]
    exact ⟨[], by simp, by simp, by simp⟩

end

end MagicBaud.CommandLine

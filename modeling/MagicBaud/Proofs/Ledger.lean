import MagicBaud.Proofs.Pieces

namespace MagicBaud.CommandLine
open Text.Decimal

/-- The first word is the rate, the second is the port as it stands, and there is no third. -/
structure Placed (ws : List String) (rate : Option Rate) (port : Option String) : Prop where
  length_le : ws.length ≤ 2
  rate : rate.map .ok = ws[0]?.map Rate.parse
  port : port = ws[1]?

/-- The command line holds what the texts given by name are read as. -/
structure Valued (texts : Field → List String) (c : CommandLine) : Prop where
  neutral : c.layer.neutral.toList.map .ok = (texts .neutral).map Rate.parse
  settle : List.Forall₂ (fun text t => Numeral text.toList t.count) (texts .settle)
    c.layer.settle.toList
  config : c.config.toList = texts .config

/-- What was said is what the command line holds, and none of it was said twice. -/
structure Accounts (ps : List Piece) (c : CommandLine) : Prop where
  placed : Placed (Piece.words ps) c.layer.rate c.layer.port
  valued : Valued (Piece.texts · ps) c
  list : c.list = true ↔ .flag .list ∈ ps
  verbose : c.verbose = true ↔ .flag .verbose ∈ ps
  once : ∀ a, Piece.given a ps ≤ 1

section
variable {ps : List Piece} {c c' : CommandLine} {f : Field} {text : String}

theorem parse_of_rateValue {r : Rate} (h : rateValue f text = .ok r) :
    Rate.parse text = .ok r := by
  unfold rateValue at h
  cases hp : Rate.parse text with
  | error e =>
    rw [hp] at h
    cases h
  | ok r' =>
    rw [hp] at h
    exact congrArg _ (Except.ok.inj h)

theorem numeral_of_millisValue {t : Millis} (h : millisValue f text = .ok t) :
    Numeral text.toList t.count := by
  unfold millisValue at h
  split at h
  · rename_i n hn
    obtain rfl := Except.ok.inj h
    exact (read_eq_ok_iff.mp hn).1
  · cases h

theorem free_of_give (h : c.give f text = .ok c') : c.has f = false := by
  unfold give at h
  split at h
  · cases h
  · rename_i hh
    simpa using hh

theorem Placed.first {rate : Option Rate} {port : Option String} {r : Rate}
    (h : Placed [] rate port) (hr : Rate.parse text = .ok r) : Placed [text] (some r) port :=
  ⟨by simp, by simp [hr], h.port⟩

theorem Placed.second {rate : Option Rate} {port : Option String} {w : String}
    (h : Placed [w] rate port) : Placed [w, text] rate (some text) :=
  ⟨by simp, h.rate, rfl⟩

/-- The port has the rate before it. -/
theorem Placed.rate_of_port {ws : List String} {rate : Option Rate} {port : Option String}
    (h : Placed ws rate port) (hp : port.isSome) : rate.isSome := by
  obtain ⟨_, hr, rfl⟩ := h
  rcases ws with _ | ⟨w, ws⟩
  · cases hp
  · cases rate with
    | none => cases hr
    | some r => rfl

theorem Valued.nothing {tx : Field → List String} (h : Valued tx c) {name : String}
    (hf : f.Named name) (hn : c.has f = false) : tx f = [] := by
  obtain ⟨hneutral, hsettle, hconfig⟩ := h
  have isNone : ∀ {α : Type} {o : Option α}, o.isSome = false → o = none :=
    fun h => Option.not_isSome_iff_eq_none.mp (Bool.not_eq_true _ ▸ h)
  cases hf with
  | neutral =>
    rw [isNone hn] at hneutral
    exact List.map_eq_nil_iff.mp hneutral.symm
  | settle =>
    rw [isNone hn] at hsettle
    exact List.forall₂_nil_right_iff.mp hsettle
  | config =>
    rw [isNone hn] at hconfig
    exact hconfig.symm

/-- The text that is given for a field is the only one for it. -/
theorem Valued.put {tx tx' : Field → List String} (h : Valued tx c) {name : String}
    (hf : f.Named name) (hp : c.put f text = .ok c') (hn : tx' f = [text])
    (ho : ∀ g, g ≠ f → tx' g = tx g) : Valued tx' c' := by
  obtain ⟨hneutral, hsettle, hconfig⟩ := h
  cases hf with
  | neutral =>
    obtain ⟨r, hr, rfl⟩ := map_ok hp
    refine ⟨?_, ?_, ?_⟩
    · simp [hn, parse_of_rateValue hr]
    · rw [ho .settle (by decide)]
      exact hsettle
    · rw [ho .config (by decide)]
      exact hconfig
  | settle =>
    obtain ⟨t, ht, rfl⟩ := map_ok hp
    refine ⟨?_, ?_, ?_⟩
    · rw [ho .neutral (by decide)]
      exact hneutral
    · rw [hn]
      exact .cons (numeral_of_millisValue ht) .nil
    · rw [ho .config (by decide)]
      exact hconfig
  | config =>
    simp only [CommandLine.put] at hp
    split at hp
    · cases hp
    · cases hp
      refine ⟨?_, ?_, ?_⟩
      · rw [ho .neutral (by decide)]
        exact hneutral
      · rw [ho .settle (by decide)]
        exact hsettle
      · exact hn.symm

/-- A value that has a name changes nothing else than its field. -/
theorem others_of_put {name : String} (hf : f.Named name) (hp : c.put f text = .ok c') :
    c'.layer.rate = c.layer.rate ∧ c'.layer.port = c.layer.port ∧ c'.list = c.list ∧
      c'.verbose = c.verbose := by
  cases hf with
  | neutral | settle =>
    obtain ⟨x, _, rfl⟩ := map_ok hp
    exact ⟨rfl, rfl, rfl, rfl⟩
  | config =>
    simp only [put] at hp
    split at hp
    · cases hp
    · cases hp
      exact ⟨rfl, rfl, rfl, rfl⟩

namespace Accounts

theorem start : Accounts [] {} where
  placed := ⟨by decide, rfl, rfl⟩
  valued := ⟨rfl, .nil, rfl⟩
  list := by decide
  verbose := by decide
  once _ := Nat.zero_le 1

/-- A word is the rate or the port, by its place. -/
theorem word (h : Accounts ps c) (hf : Reading.wordField? (Piece.words ps).length = some f)
    (hg : c.give f text = .ok c') : Accounts (ps ++ [.word text]) c' := by
  have hwords : Piece.words (ps ++ [.word text]) = Piece.words ps ++ [text] :=
    Piece.words_append_word text
  have htexts : (Piece.texts · (ps ++ [.word text])) = (Piece.texts · ps) :=
    funext fun g => Piece.texts_append_word g text
  have honce := Piece.once_append h.once (p := .word text) fun a ha => nomatch ha
  have hp := put_of_give hg
  obtain ⟨hplaced, hvalued, hlist, hverbose, _⟩ := h
  rw [← htexts] at hvalued
  obtain ⟨hneutral, hsettle, hconfig⟩ := hvalued
  generalize Piece.words ps = ws at hf hwords hplaced
  rcases ws with _ | ⟨w, _ | ⟨w', ws⟩⟩
  · obtain rfl := Option.some.inj hf
    obtain ⟨r, hr, rfl⟩ := map_ok hp
    refine ⟨?_, ⟨hneutral, hsettle, hconfig⟩, by simpa using hlist, by simpa using hverbose, honce⟩
    rw [hwords]
    exact hplaced.first (parse_of_rateValue hr)
  · obtain rfl := Option.some.inj hf
    cases hp
    refine ⟨?_, ⟨hneutral, hsettle, hconfig⟩, by simpa using hlist, by simpa using hverbose, honce⟩
    rw [hwords]
    exact hplaced.second
  · cases hf

/-- A value is given only to a field that has none. -/
theorem value {name : String} (h : Accounts ps c) (hf : f.Named name)
    (hg : c.give f text = .ok c') : Accounts (ps ++ [.value f text]) c' := by
  have hp := put_of_give hg
  have hnone : Piece.texts f ps = [] := h.valued.nothing hf (free_of_give hg)
  obtain ⟨hrate, hport, hlist, hverbose⟩ := others_of_put hf hp
  refine ⟨?_, ?_, ?_, ?_, ?_⟩
  · rw [Piece.words_append_value, hrate, hport]
    exact h.placed
  · refine h.valued.put hf hp ?_ fun g hne => ?_
    · simp [hnone]
    · simp [Ne.symm hne]
  · rw [hlist, h.list]
    simp
  · rw [hverbose, h.verbose]
    simp
  · refine Piece.once_append h.once fun a ha => ?_
    obtain rfl := Option.some.inj ha
    rw [Piece.given_field, hnone]
    rfl

/-- A flag is raised only once. -/
theorem flag {f : Flag} {detailed : Bool} (h : Accounts ps c)
    (hr : c.raise f detailed = .ok c') : Accounts (ps ++ [.flag f]) c' := by
  have hwords : Piece.words (ps ++ [.flag f]) = Piece.words ps := Piece.words_append_flag f
  have htexts : (Piece.texts · (ps ++ [.flag f])) = (Piece.texts · ps) :=
    funext fun g => Piece.texts_append_flag g f
  have honce : .flag f ∉ ps → ∀ a, Piece.given a (ps ++ [.flag f]) ≤ 1 := by
    intro hn
    refine Piece.once_append h.once fun a ha => ?_
    obtain rfl := Option.some.inj ha
    exact Piece.given_flag_eq_zero hn
  obtain ⟨hplaced, hvalued, hlist, hverbose, _⟩ := h
  rw [← hwords] at hplaced
  rw [← htexts] at hvalued
  obtain ⟨hneutral, hsettle, hconfig⟩ := hvalued
  cases f with
  | help | version => cases hr
  | list =>
    simp only [raise] at hr
    split at hr
    · cases hr
    · rename_i hn
      cases hr
      refine ⟨hplaced, ⟨hneutral, hsettle, hconfig⟩, by simp, by simpa using hverbose, ?_⟩
      exact honce fun hm => hn (hlist.mpr hm)
  | verbose =>
    simp only [raise] at hr
    split at hr
    · cases hr
    · rename_i hn
      cases hr
      refine ⟨hplaced, ⟨hneutral, hsettle, hconfig⟩, by simpa using hlist, by simp, ?_⟩
      exact honce fun hm => hn (hverbose.mpr hm)

end Accounts

/-- A settle time that is said is the one in the line. -/
theorem Accounts.settle (h : Accounts ps c) (ht : text ∈ Piece.texts .settle ps) :
    ∃ t, c.layer.settle = some t ∧ Numeral text.toList t.count := by
  obtain ⟨i, hi, rfl⟩ := List.getElem_of_mem ht
  have hl := h.valued.settle.length_eq
  have hread := h.valued.settle.get hi (hl ▸ hi)
  exact ⟨_, Option.mem_toList.mp (List.get_mem _ _), hread⟩

/-- Something is said that is too much, or that is read as nothing. -/
inductive Unacceptable (ps : List Piece) : Prop
  | third (h : 2 < (Piece.words ps).length)
  | repeated (a : Argument) (h : 1 < Piece.given a ps)
  | rate (text : String) (ht : (Piece.words ps)[0]? = some text)
      (h : ∀ r, Rate.parse text ≠ .ok r)
  | neutral (text : String) (ht : text ∈ Piece.texts .neutral ps)
      (h : ∀ r, Rate.parse text ≠ .ok r)
  | settle (text : String) (ht : text ∈ Piece.texts .settle ps)
      (h : ∀ n, Numeral text.toList n → 18446744073709551616 ≤ n)

theorem Accounts.acceptable (h : Accounts ps c) : ¬ Unacceptable ps := by
  rintro (hthird | ⟨a, hrep⟩ | ⟨text, ht, hr⟩ | ⟨text, ht, hr⟩ | ⟨text, ht, hn⟩)
  · exact absurd h.placed.length_le (Nat.not_le.mpr hthird)
  · exact absurd (h.once a) (Nat.not_le.mpr hrep)
  · have hrate := h.placed.rate
    rw [ht] at hrate
    obtain ⟨r, _, he⟩ := Option.map_eq_some_iff.mp hrate
    exact hr r he.symm
  · have hm : Rate.parse text ∈ c.layer.neutral.toList.map .ok :=
      h.valued.neutral ▸ List.mem_map_of_mem ht
    obtain ⟨r, _, he⟩ := List.mem_map.mp hm
    exact hr r he.symm
  · obtain ⟨t, _, hread⟩ := h.settle ht
    exact absurd t.fits (Nat.not_lt.mpr (hn _ hread))

end

end MagicBaud.CommandLine

import MagicBaud.Rate

namespace MagicBaud

theorem Text.toNat_of_isDigit {c : Char} (h : c.isDigit = true) :
    48 ≤ c.toNat ∧ c.toNat ≤ 57 :=
  Char.isDigit_iff_toNat.mp h

namespace Text.Decimal

theorem digit?_digitChar {d : Nat} (h : d < 10) : digit? d.digitChar = some d := by
  revert d
  decide

/-- The numerals of a number: at most one plus sign, then digits, the first of them perhaps zeros. -/
inductive Numeral : List Char → Nat → Prop
  | digits {ds : List Char} (hn : ds ≠ []) (hd : ∀ c ∈ ds, c.isDigit = true) :
      Numeral ds (Nat.ofDigitChars 10 ds 0)
  | plus {ds : List Char} (hn : ds ≠ []) (hd : ∀ c ∈ ds, c.isDigit = true) :
      Numeral ('+' :: ds) (Nat.ofDigitChars 10 ds 0)

theorem digit?_eq_some_iff {c : Char} {d : Nat} :
    digit? c = some d ↔ c.isDigit = true ∧ d = c.toNat - '0'.toNat := by
  have hd : c.isDigit = true ↔ '0' ≤ c ∧ c ≤ '9' := by
    rw [Char.isDigit_iff_toNat]
    exact Iff.rfl
  unfold digit?
  rw [hd]
  split
  · rename_i h
    simp [h, eq_comm]
  · rename_i h
    simp [h]

theorem le_ofDigitChars (ds : List Char) (sum : Nat) : sum ≤ Nat.ofDigitChars 10 ds sum := by
  induction ds generalizing sum with
  | nil => exact Nat.le_refl sum
  | cons c ds ih =>
    rw [Nat.ofDigitChars_cons]
    exact Nat.le_trans (by omega) (ih _)

/-- Induction on the digits: the value that was read so far never exceeds the whole. -/
theorem readFrom_eq_ok_iff {limit sum n : Nat} {ds : List Char} (hs : ds ≠ [] ∨ sum < limit) :
    readFrom limit sum ds = .ok n ↔
      (∀ c ∈ ds, c.isDigit = true) ∧ n = Nat.ofDigitChars 10 ds sum ∧ n < limit := by
  induction ds generalizing sum with
  | nil =>
    have hlt : sum < limit := hs.resolve_left (by simp)
    simp only [readFrom, Except.ok.injEq, List.not_mem_nil, false_imp_iff, implies_true,
      Nat.ofDigitChars_nil, true_and]
    constructor
    · rintro rfl
      exact ⟨rfl, hlt⟩
    · exact fun h => h.1.symm
  | cons c ds ih =>
    rw [List.forall_mem_cons, Nat.ofDigitChars_cons, readFrom]
    cases hc : digit? c with
    | none =>
      have hd : ¬ c.isDigit = true := fun hd => by
        rw [digit?_eq_some_iff.mpr ⟨hd, rfl⟩] at hc
        cases hc
      simp [hd]
    | some d =>
      obtain ⟨hd, rfl⟩ := digit?_eq_some_iff.mp hc
      simp only [hd, true_and]
      rw [Nat.mul_comm 10]
      split
      · rename_i hlt
        exact ih (.inr hlt)
      · rename_i hge
        constructor
        · intro h
          cases h
        · rintro ⟨_, rfl, hlt⟩
          exact absurd (Nat.lt_of_le_of_lt (le_ofDigitChars ds _) hlt) hge

/-- What is read is a numeral of a number below the limit, and all of them are read. -/
theorem read_eq_ok_iff {limit n : Nat} {cs : List Char} :
    read limit cs = .ok n ↔ Numeral cs n ∧ n < limit := by
  have ofDigits : ∀ {c : Char} {ds cs : List Char},
      (∀ m, Numeral cs m ↔
        (∀ d ∈ c :: ds, d.isDigit = true) ∧ m = Nat.ofDigitChars 10 (c :: ds) 0) →
      (readFrom limit 0 (c :: ds) = .ok n ↔ Numeral cs n ∧ n < limit) := by
    intro c ds cs hcs
    rw [hcs, readFrom_eq_ok_iff (.inl (List.cons_ne_nil c ds)), and_assoc]
  unfold read
  split
  · constructor
    · intro h
      cases h
    · rintro ⟨h, _⟩
      cases h with
      | digits hn _ => exact absurd rfl hn
  · constructor
    · intro h
      cases h
    · rintro ⟨h, _⟩
      cases h with
      | digits _ hd => exact absurd (hd '+' (by simp)) (by decide)
      | plus hn _ => exact absurd rfl hn
  · rename_i c cs
    refine ofDigits fun m => ?_
    constructor
    · intro h
      cases h with
      | digits _ hd => exact absurd (hd '+' (by simp)) (by decide)
      | plus _ hd => exact ⟨hd, rfl⟩
    · rintro ⟨hd, rfl⟩
      exact .plus (List.cons_ne_nil c cs) hd
  · rename_i c cs hplus hplus'
    refine ofDigits fun m => ?_
    constructor
    · intro h
      cases h with
      | digits _ hd => exact ⟨hd, rfl⟩
      | plus hn _ =>
        obtain ⟨d, ds, rfl⟩ := List.exists_cons_of_ne_nil hn
        exact (hplus' d ds rfl rfl).elim
    · rintro ⟨hd, rfl⟩
      exact .digits (List.cons_ne_nil c cs) hd

/-- A text is a numeral of one number at most. -/
theorem Numeral.unique {cs : List Char} {m n : Nat} (hm : Numeral cs m) (hn : Numeral cs n) :
    m = n := by
  have hm' : read (max m n + 1) cs = .ok m := read_eq_ok_iff.mpr ⟨hm, by omega⟩
  have hn' : read (max m n + 1) cs = .ok n := read_eq_ok_iff.mpr ⟨hn, by omega⟩
  rw [hm'] at hn'
  exact Except.ok.inj hn'

/-- No numeral begins with a letter. -/
theorem Numeral.begins {cs : List Char} {n : Nat} (h : Numeral cs n) :
    ∃ c ds, cs = c :: ds ∧ c.toNat < 0x41 := by
  cases h with
  | digits hn hd =>
    obtain ⟨c, ds, rfl⟩ := List.exists_cons_of_ne_nil hn
    have := toNat_of_isDigit (hd c List.mem_cons_self)
    exact ⟨c, ds, rfl, by omega⟩
  | plus _ _ => exact ⟨'+', _, rfl, by decide⟩

theorem isDigit_of_mem_write {n : Nat} {c : Char} (h : c ∈ write n) : c.isDigit = true :=
  Nat.isDigit_of_mem_toDigits (by decide) (by decide) h

theorem numeral_write (n : Nat) : Numeral (write n) n := by
  have h : Numeral (write n) (Nat.ofDigitChars 10 (write n) 0) :=
    .digits Nat.toDigits_ne_nil fun c hc => isDigit_of_mem_write hc
  rwa [show Nat.ofDigitChars 10 (write n) 0 = n from Nat.ofDigitChars_ten_toDigits] at h

theorem read_write {limit n : Nat} (h : n < limit) : read limit (write n) = .ok n :=
  read_eq_ok_iff.mpr ⟨numeral_write n, h⟩

/-- What is written for a number is read as no other, and only below the limit. -/
theorem read_write_eq {limit m n : Nat} (h : read limit (write n) = .ok m) :
    m = n ∧ n < limit := by
  obtain ⟨hm, hlt⟩ := read_eq_ok_iff.mp h
  obtain rfl := hm.unique (numeral_write n)
  exact ⟨rfl, hlt⟩

theorem write_inj {m n : Nat} (h : write m = write n) : m = n := by
  have hm : Numeral (write n) m := h ▸ numeral_write m
  exact hm.unique (numeral_write n)

/-- The digits at the end of a text are told from what stands before them. -/
theorem append_write_inj {as bs : List Char} {m n : Nat} {c : Char} (hc : c.isDigit = false)
    (h : as ++ c :: write m = bs ++ c :: write n) : as = bs ∧ m = n := by
  have digits : ∀ (cs : List Char) (k : Nat),
      (cs ++ c :: write k).reverse.takeWhile Char.isDigit = (write k).reverse := by
    intro cs k
    have hk : ∀ d ∈ (write k).reverse, d.isDigit = true :=
      fun d hd => isDigit_of_mem_write (List.mem_reverse.mp hd)
    rw [List.reverse_append, List.reverse_cons, List.append_assoc, List.takeWhile_append_of_pos hk]
    simp [hc]
  have hr := digits as m
  rw [h, digits bs n, List.reverse_inj] at hr
  rw [hr] at h
  exact ⟨List.append_cancel_right h, (write_inj hr).symm⟩

end Text.Decimal

namespace Text

/-- The ASCII characters that are shown come behind the blanks among them. -/
theorem isBlank_of_shown {c : Char} (h : 0x20 < c.toNat) (ha : c.toNat < 0x80) :
    isBlank c = false := by
  simp only [isBlank]
  grind

theorem isBlank_of_isDigit {c : Char} (h : c.isDigit = true) : isBlank c = false := by
  have hc := toNat_of_isDigit h
  exact isBlank_of_shown (by omega) (by omega)

theorem trimStart_of_not_blank {cs : List Char} (h : ∀ c ∈ cs, isBlank c = false) :
    trimStart cs = cs := by
  cases cs with
  | nil => rfl
  | cons c cs => exact List.dropWhile_cons_of_neg (by simp [h c List.mem_cons_self])

/-- A text without blanks is not trimmed. -/
theorem trim_of_not_blank {cs : List Char} (h : ∀ c ∈ cs, isBlank c = false) :
    trim (String.ofList cs) = String.ofList cs := by
  have hr : ∀ c ∈ cs.reverse, isBlank c = false := fun c hc => h c (List.mem_reverse.mp hc)
  rw [trim, String.toList_ofList, trimStart_of_not_blank h, trimEnd, trimStart_of_not_blank hr,
    List.reverse_reverse]

end Text

namespace Rate

theorem ofNat?_baud (r : Rate) : ofNat? r.baud = some r := dif_pos r.fits

theorem baud_of_ofNat? {n : Nat} {r : Rate} (h : ofNat? n = some r) : r.baud = n := by
  unfold ofNat? at h
  split at h
  · cases h
    rfl
  · cases h

theorem baud_inj {r r' : Rate} : r.baud = r'.baud ↔ r = r' := by
  cases r
  cases r'
  simp

/-- The text of a rate names it. -/
theorem parse_text (r : Rate) : Rate.parse r.text = .ok r := by
  have hb : ∀ c ∈ Text.Decimal.write r.baud, Text.isBlank c = false :=
    fun c hc => Text.isBlank_of_isDigit (Text.Decimal.isDigit_of_mem_write hc)
  simp only [Rate.parse, text, Text.trim_of_not_blank hb, String.toList_ofList,
    Text.Decimal.read_write r.fits, Except.toOption, Option.bind_some, ofNat?_baud]

/-- The rate at the end of a text can be read off, whatever the text says before it. -/
theorem append_text_inj {s s' gap : String} {r r' : Rate} {cs : List Char} {c : Char}
    (hg : gap.toList = cs ++ [c]) (hc : c.isDigit = false)
    (h : s ++ gap ++ r.text = s' ++ gap ++ r'.text) : s = s' ∧ r = r' := by
  have hl : s.toList ++ cs ++ c :: Text.Decimal.write r.baud =
      s'.toList ++ cs ++ c :: Text.Decimal.write r'.baud := by
    simpa [hg, text] using congrArg String.toList h
  obtain ⟨hs, hr⟩ := Text.Decimal.append_write_inj hc hl
  exact ⟨String.toList_inj.mp (List.append_cancel_right hs), baud_inj.mp hr⟩

end Rate
end MagicBaud

import MagicBaud.Proofs.Casing
import MagicBaud.Proofs.Numerals

namespace MagicBaud

namespace Text

/-- The text `t` is what remains of `s` without the blanks on both sides. -/
structure Trimmed (s t : String) : Prop where
  within : ∃ u v : List Char, (∀ c ∈ u ++ v, isBlank c = true) ∧ s.toList = u ++ t.toList ++ v
  starts : ∀ c ∈ t.toList.head?, isBlank c = false
  ends : ∀ c ∈ t.toList.getLast?, isBlank c = false

theorem trimStart_append {u cs : List Char} (h : ∀ c ∈ u, isBlank c = true) :
    trimStart (u ++ cs) = trimStart cs :=
  List.dropWhile_append_of_pos h

theorem trimStart_of_head {cs : List Char} (h : ∀ c ∈ cs.head?, isBlank c = false) :
    trimStart cs = cs := by
  cases cs with
  | nil => rfl
  | cons c cs => exact List.dropWhile_cons_of_neg (by simp [h c rfl])

theorem trimEnd_append {cs v : List Char} (h : ∀ c ∈ v, isBlank c = true) :
    trimEnd (cs ++ v) = trimEnd cs := by
  have hv : ∀ c ∈ v.reverse, isBlank c = true := fun c hc => h c (List.mem_reverse.mp hc)
  rw [trimEnd, List.reverse_append, trimStart_append hv, trimEnd]

theorem trimEnd_of_last {cs : List Char} (h : ∀ c ∈ cs.getLast?, isBlank c = false) :
    trimEnd cs = cs := by
  have hr : ∀ c ∈ cs.reverse.head?, isBlank c = false := by
    rw [List.head?_reverse]
    exact h
  rw [trimEnd, trimStart_of_head hr, List.reverse_reverse]

/-- The blanks of `cs` end where the rest begins with another character. -/
theorem exists_trimStart (cs : List Char) :
    (∃ u : List Char, (∀ c ∈ u, isBlank c = true) ∧ cs = u ++ trimStart cs) ∧
      ∀ c ∈ (trimStart cs).head?, isBlank c = false := by
  refine ⟨⟨cs.takeWhile isBlank, ?_, List.takeWhile_append_dropWhile.symm⟩, ?_⟩
  · intro c hc
    exact List.all_eq_true.mp List.all_takeWhile c hc
  · intro c hc
    have hn := List.head?_dropWhile_not isBlank cs
    rw [trimStart] at hc
    rw [hc] at hn
    exact hn

theorem trimmed_trim (s : String) : Trimmed s (trim s) := by
  obtain ⟨⟨u, hu, hs⟩, hstart⟩ := exists_trimStart s.toList
  obtain ⟨⟨v, hv, hr⟩, hend⟩ := exists_trimStart (trimStart s.toList).reverse
  have he : trimStart s.toList = trimEnd (trimStart s.toList) ++ v.reverse := by
    rw [trimEnd, ← List.reverse_append, ← hr, List.reverse_reverse]
  refine ⟨⟨u, v.reverse, ?_, ?_⟩, ?_, ?_⟩
  · intro c hc
    rcases List.mem_append.mp hc with hc | hc
    · exact hu c hc
    · exact hv c (List.mem_reverse.mp hc)
  · rw [trim, String.toList_ofList, List.append_assoc, ← he]
    exact hs
  · intro c hc
    rw [trim, String.toList_ofList] at hc
    refine hstart c ?_
    rw [he, List.head?_append, hc]
    rfl
  · intro c hc
    rw [trim, String.toList_ofList, trimEnd, List.getLast?_reverse] at hc
    exact hend c hc

/-- Nothing else remains. -/
theorem Trimmed.eq_trim {s t : String} (h : Trimmed s t) : t = trim s := by
  obtain ⟨u, v, hb, hs⟩ := h.within
  have hu : ∀ c ∈ u, isBlank c = true := fun c hc => hb c (List.mem_append_left v hc)
  have hv : ∀ c ∈ v, isBlank c = true := fun c hc => hb c (List.mem_append_right u hc)
  have hrest : trimEnd (trimStart (t.toList ++ v)) = t.toList := by
    cases ht : t.toList with
    | nil =>
      have hnone : trimStart (v ++ []) = [] := trimStart_append hv
      rw [List.nil_append, ← List.append_nil v, hnone]
      rfl
    | cons c cs =>
      have hstart : ∀ d ∈ (c :: cs ++ v).head?, isBlank d = false := by
        intro d hd
        exact h.starts d (by rw [ht]; exact hd)
      rw [trimStart_of_head hstart, trimEnd_append hv, ← ht, trimEnd_of_last h.ends]
  rw [trim, hs, List.append_assoc, trimStart_append hu, hrest, String.ofList_toList]

end Text

namespace Rate
open Text Text.Decimal

/-- The names of rates and the rates that they stand for. -/
def nicknames : List (String × Nat) :=
  [("dfu", 14400), ("listen", 28800), ("listening", 28800), ("neutral", 9600), ("touch", 1200),
    ("arduino-reset", 1200)]

/-- A rate is said by a numeral of it, or by a name of it in capital or small letters. -/
inductive Said : String → Rate → Prop
  | number {t : String} {r : Rate} (h : Numeral t.toList r.baud) : Said t r
  | name {t name : String} {r : Rate} (hn : (name, r.baud) ∈ nicknames)
      (hs : SameLetters t name) : Said t r

/-- The rate that a text gives as a number. -/
def number? (t : String) : Option Rate := (read (4294967296) t.toList).toOption.bind ofNat?

theorem parse_eq_or (s : String) :
    Rate.parse s = ((number? (trim s)).or (Preset.find? (trim s))).elim (.error ⟨trim s⟩) .ok := by
  simp only [Rate.parse, number?]
  cases (read (4294967296) (trim s).toList).toOption.bind ofNat? with
  | some r => rfl
  | none => cases Preset.find? (trim s) <;> rfl

theorem number?_eq_some_iff {t : String} {r : Rate} :
    number? t = some r ↔ Numeral t.toList r.baud := by
  constructor
  · intro h
    obtain ⟨n, hn, hr⟩ := Option.bind_eq_some_iff.mp h
    cases hread : read (4294967296) t.toList with
    | error fault =>
      rw [hread] at hn
      cases hn
    | ok m =>
      rw [hread] at hn
      obtain rfl := Option.some.inj hn
      rw [baud_of_ofNat? hr]
      exact (read_eq_ok_iff.mp hread).1
  · intro h
    rw [number?, read_eq_ok_iff.mpr ⟨h, r.fits⟩]
    exact ofNat?_baud r

theorem nicknames_perm : nicknames.Perm (Preset.all.map fun p => (p.name, p.rate.baud)) := by
  decide

theorem mem_nicknames_iff {name : String} {r : Rate} :
    (name, r.baud) ∈ nicknames ↔ ∃ p ∈ Preset.all, p.name = name ∧ p.rate = r := by
  rw [nicknames_perm.mem_iff, List.mem_map]
  simp only [Prod.mk.injEq, baud_inj]

theorem find?_eq_some_iff {t : String} {r : Rate} :
    Preset.find? t = some r ↔ ∃ name, (name, r.baud) ∈ nicknames ∧ SameLetters t name := by
  rw [Preset.find?_eq_some_iff]
  constructor
  · rintro ⟨p, hp, hs, hr⟩
    exact ⟨p.name, mem_nicknames_iff.mpr ⟨p, hp, rfl, hr⟩, hs⟩
  · rintro ⟨name, hn, hs⟩
    obtain ⟨p, hp, rfl, hr⟩ := mem_nicknames_iff.mp hn
    exact ⟨p, hp, hs, hr⟩

/-- No numeral is a name: it begins with a plus sign or a digit, and they with a letter. -/
theorem not_sameLetters_of_numeral {t name : String} {n baud : Nat} (hn : Numeral t.toList n)
    (hm : (name, baud) ∈ nicknames) : ¬ SameLetters t name := by
  obtain ⟨p, hp, he⟩ := List.mem_map.mp (nicknames_perm.subset hm)
  cases he
  obtain ⟨c, cs, ht, hc⟩ := hn.begins
  exact Preset.not_sameLetters_name hp ht hc

/-- At most one of the two attempts succeeds. -/
theorem number?_eq_none_or (t : String) : number? t = none ∨ Preset.find? t = none := by
  cases hn : number? t with
  | none => exact .inl rfl
  | some r =>
    obtain ⟨c, cs, ht, hc⟩ := (number?_eq_some_iff.mp hn).begins
    exact .inr (Preset.find?_eq_none ht hc)

theorem or_comm_find? (t : String) :
    (number? t).or (Preset.find? t) = (Preset.find? t).or (number? t) := by
  rcases number?_eq_none_or t with h | h <;> simp [h]

theorem said_iff {t : String} {r : Rate} :
    Said t r ↔ (number? t).or (Preset.find? t) = some r := by
  have hone : (number? t).or (Preset.find? t) = some r ↔
      number? t = some r ∨ Preset.find? t = some r := by
    rcases number?_eq_none_or t with h | h <;> simp [h]
  rw [hone, number?_eq_some_iff, find?_eq_some_iff]
  constructor
  · rintro (hn | ⟨hn, hs⟩)
    · exact .inl hn
    · exact .inr ⟨_, hn, hs⟩
  · rintro (hn | ⟨_, hn, hs⟩)
    · exact .number hn
    · exact .name hn hs

theorem parse_eq_ok_iff {s : String} {r : Rate} : Rate.parse s = .ok r ↔ Said (trim s) r := by
  rw [said_iff, parse_eq_or]
  cases (number? (trim s)).or (Preset.find? (trim s)) <;> simp

/-- Only what is left of a text without the blanks around it is told. -/
theorem parse_eq_error {s : String} {e : UnknownRate} (h : Rate.parse s = .error e) :
    e = ⟨trim s⟩ := by
  rw [parse_eq_or] at h
  cases ho : (number? (trim s)).or (Preset.find? (trim s)) with
  | some r =>
    rw [ho] at h
    cases h
  | none =>
    rw [ho] at h
    exact (Except.error.inj h).symm

theorem parse_eq_error_iff {s : String} :
    Rate.parse s = .error ⟨trim s⟩ ↔ ∀ r, ¬ Said (trim s) r := by
  simp only [said_iff, parse_eq_or]
  cases (number? (trim s)).or (Preset.find? (trim s)) <;> simp

/-- A text that is left as `t` without the blanks around it is read as what `t` says. -/
structure ReadAs (s t : String) : Prop where
  accepted : ∀ r, Rate.parse s = .ok r ↔ Said t r
  refused : Rate.parse s = .error ⟨t⟩ ↔ ∀ r, ¬ Said t r
  /-- A numeral of a number that is too large is not taken for another. -/
  tooLarge : ∀ n, Numeral t.toList n → 4294967296 ≤ n → Rate.parse s = .error ⟨t⟩
  disjoint : ∀ n name baud, Numeral t.toList n → (name, baud) ∈ nicknames → ¬ SameLetters t name
  numberFirst : Rate.parse s = ((number? t).or (Preset.find? t)).elim (.error ⟨t⟩) .ok
  nameFirst : Rate.parse s = ((Preset.find? t).or (number? t)).elim (.error ⟨t⟩) .ok
  unblanked : Rate.parse s = Rate.parse t

theorem not_said_of_tooLarge {t : String} {n : Nat} (hn : Numeral t.toList n)
    (hl : 4294967296 ≤ n) (r : Rate) : ¬ Said t r := by
  rintro (hr | ⟨hm, hs⟩)
  · have := hn.unique hr
    have := r.fits
    omega
  · exact not_sameLetters_of_numeral hn hm hs

theorem trim_trim (s : String) : trim (trim s) = trim s := by
  have h := trimmed_trim s
  exact (Trimmed.eq_trim ⟨⟨[], [], by simp, by simp⟩, h.starts, h.ends⟩).symm

theorem trimmed_text (r : Rate) {u v : String}
    (h : ∀ c ∈ u.toList ++ v.toList, isBlank c = true) : Trimmed (u ++ r.text ++ v) r.text := by
  have hd : ∀ c ∈ r.text.toList, isBlank c = false := by
    intro c hc
    rw [text, String.toList_ofList] at hc
    exact isBlank_of_isDigit (isDigit_of_mem_write hc)
  refine ⟨⟨u.toList, v.toList, h, by simp⟩, ?_, ?_⟩
  · exact fun c hc => hd c (List.mem_of_head? hc)
  · exact fun c hc => hd c (List.mem_of_getLast? hc)

/-- Every text is read as what it says without the blanks around it, and the text of a rate says
this rate. -/
theorem parse_said :
    (∀ s, ∃ t, Trimmed s t) ∧
    (∀ s t, Trimmed s t → ReadAs s t) ∧
    ∀ (r : Rate) (u v : String), (∀ c ∈ u.toList ++ v.toList, isBlank c = true) →
      Rate.parse (u ++ r.text ++ v) = .ok r := by
  refine ⟨fun s => ⟨_, trimmed_trim s⟩, ?_, ?_⟩
  · intro s t h
    obtain rfl := h.eq_trim
    refine ⟨fun r => parse_eq_ok_iff, parse_eq_error_iff, ?_, ?_, parse_eq_or s, ?_, ?_⟩
    · intro n hn hl
      exact parse_eq_error_iff.mpr (not_said_of_tooLarge hn hl)
    · intro n name baud hn hm
      exact not_sameLetters_of_numeral hn hm
    · rw [← or_comm_find?]
      exact parse_eq_or s
    · rw [parse_eq_or, parse_eq_or (trim s), trim_trim]
  · intro r u v h
    rw [parse_eq_ok_iff, ← (trimmed_text r h).eq_trim]
    refine .number ?_
    rw [text, String.toList_ofList]
    exact numeral_write r.baud

/-- A plus sign and zeros in front are read, a number of 33 bits is not, and a name is read in
capital letters. -/
theorem parse_said_bounds :
    Rate.parse "\t+0028800\u2003" = .ok ⟨28800, by decide⟩ ∧
    Rate.parse " 04294967296" = .error ⟨"04294967296"⟩ ∧
    Rate.parse "Arduino-RESET\n" = .ok ⟨1200, by decide⟩ ∧
    Rate.parse ("\u00A0" ++ neutral.text ++ " ") = .ok neutral := by
  obtain ⟨_, hread, htext⟩ := parse_said
  have blank : ∀ c ∈ "\u00A0".toList ++ " ".toList, isBlank c = true :=
    List.all_eq_true.mp (by decide)
  have trimmed : ∀ {s t : String}, trim s = t → Trimmed s t := fun h => h ▸ trimmed_trim _
  refine ⟨?_, ?_, ?_, htext neutral "\u00A0" " " blank⟩
  · have h : Trimmed "\t+0028800\u2003" "+0028800" := trimmed (by decide)
    have hd : ∀ c ∈ "0028800".toList, c.isDigit = true := List.all_eq_true.mp (by decide)
    exact ((hread _ _ h).accepted _).mpr (.number (.plus (by decide) hd))
  · have h : Trimmed " 04294967296" "04294967296" := trimmed (by decide)
    have hd : ∀ c ∈ "04294967296".toList, c.isDigit = true := List.all_eq_true.mp (by decide)
    exact (hread _ _ h).tooLarge _ (.digits (by decide) hd) (by decide)
  · have h : Trimmed "Arduino-RESET\n" "Arduino-RESET" := trimmed (by decide)
    have hn : ("arduino-reset", 1200) ∈ nicknames := by decide
    exact ((hread _ _ h).accepted _).mpr (.name hn (by decide))

end Rate
end MagicBaud

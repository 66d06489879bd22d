import Mathlib.Data.List.Forall2
import MagicBaud.Proofs.Naming

namespace MagicBaud

namespace Text

/-- The first character is the small letter of ASCII for the second, a capital. -/
def IsSmallOf (small capital : Char) : Prop :=
  0x41 ≤ capital.toNat ∧ capital.toNat ≤ 0x5A ∧ small.toNat = capital.toNat + 0x20

/-- The characters are one, or an ASCII letter in both cases. -/
def SameLetter (c d : Char) : Prop := c = d ∨ IsSmallOf c d ∨ IsSmallOf d c

theorem isSmallOf_toLower {c : Char} (h : 0x41 ≤ c.toNat ∧ c.toNat ≤ 0x5A) :
    IsSmallOf c.toLower c := by
  have hc : c.val ≥ 'A'.val ∧ c.val ≤ 'Z'.val := h
  have hl : c.toLower.toNat = (c.val + 0x20).toNat := congrArg Char.toNat (dif_pos hc)
  have hz : c.val.toNat ≤ 0x5A := h.2
  have hfits : c.val.toNat + 0x20 < 4294967296 := by omega
  refine ⟨h.1, h.2, ?_⟩
  rw [hl, UInt32.toNat_add]
  exact Nat.mod_eq_of_lt hfits

theorem toLower_cases (c : Char) : IsSmallOf c.toLower c ∨ c.toLower = c := by
  by_cases h : 0x41 ≤ c.toNat ∧ c.toNat ≤ 0x5A
  · exact .inl (isSmallOf_toLower h)
  · exact .inr (toLower_of_not_capital (by omega))

theorem IsSmallOf.toLower_eq {c d : Char} (h : IsSmallOf d c) : c.toLower = d ∧ d.toLower = d := by
  obtain ⟨ha, hz, hd⟩ := h
  obtain ⟨_, _, hc⟩ := isSmallOf_toLower ⟨ha, hz⟩
  exact ⟨Char.toNat_inj.mp (hc.trans hd.symm), toLower_of_not_capital (.inr (by omega))⟩

theorem sameLetter_iff {c d : Char} : SameLetter c d ↔ c.toLower = d.toLower := by
  constructor
  · rintro (rfl | h | h)
    · rfl
    · rw [h.toLower_eq.1, h.toLower_eq.2]
    · rw [h.toLower_eq.1, h.toLower_eq.2]
  · intro he
    rcases toLower_cases c with hc | hc <;> rcases toLower_cases d with hd | hd
    · left
      rw [he] at hc
      exact Char.toNat_inj.mp (Nat.add_right_cancel (hc.2.2.symm.trans hd.2.2))
    · right; right
      rwa [he, hd] at hc
    · right; left
      rwa [← he, hc] at hd
    · left
      rw [← hc, ← hd, he]

/-- Letter by letter, and so of the same length. -/
theorem sameLetters_iff {s t : String} :
    SameLetters s t ↔ List.Forall₂ SameLetter s.toList t.toList := by
  have hs : SameLetter = fun c d => c.toLower = d.toLower := by
    funext c d
    exact propext sameLetter_iff
  rw [SameLetters, ← List.forall₂_eq_eq_eq, List.forall₂_map_left_iff, List.forall₂_map_right_iff,
    hs]

end Text

namespace Preset
open Text

theorem mem_name {p : Preset} (h : p ∈ all) {c : Char} (hc : c ∈ p.name.toList) :
    0x61 ≤ c.toNat ∧ c.toNat ≤ 0x7A ∨ c = '-' := by
  have hall : all.all (fun p => p.name.toList.all
      (fun c => 0x61 ≤ c.toNat && c.toNat ≤ 0x7A || c == '-')) = true := by decide
  have hp := List.all_eq_true.mp (List.all_eq_true.mp hall p h) c hc
  simpa using hp

/-- A text that is found has the letters of a name, and so ASCII characters without blanks. -/
theorem shown_of_find? {s : String} {r : Rate} (h : find? s = some r) {c : Char}
    (hc : c ∈ s.toList) : c.toNat < 0x80 ∧ isBlank c = false := by
  obtain ⟨p, hp, hs, _⟩ := find?_eq_some_iff.mp h
  have hm : c.toLower ∈ p.name.toList := by
    rw [← (name_plain hp).2, ← hs]
    exact List.mem_map_of_mem hc
  have hlow : 0x20 < c.toNat ∧ c.toNat < 0x80 := by
    rcases toLower_cases c with hl | hl
    · obtain ⟨ha, hz, _⟩ := hl
      omega
    · rw [hl] at hm
      rcases mem_name hp hm with hm | rfl
      · omega
      · decide
  exact ⟨hlow.2, isBlank_of_shown hlow.1 hlow.2⟩

theorem find?_congr {s t : String} (h : SameLetters s t) : find? s = find? t := by
  refine Option.ext fun r => ?_
  rw [find?_eq_some_iff, find?_eq_some_iff]
  simp only [SameLetters] at h ⊢
  rw [h]

/-- What is found has no blanks around it and is no number. -/
theorem parse_of_find? {s : String} {r : Rate} (h : find? s = some r) : Rate.parse s = .ok r := by
  have hb : ∀ c ∈ s.toList, isBlank c = false := fun c hc => (shown_of_find? h hc).2
  have ht : trim s = s := by
    rw [← String.ofList_toList (s := s)]
    exact trim_of_not_blank hb
  rw [Rate.parse_eq_ok_iff, ht]
  obtain ⟨name, hn, hs⟩ := Rate.find?_eq_some_iff.mp h
  exact .name hn hs

/-- A text is found as the rate of a name if and only if it has the letters of this name, each as a
capital or a small letter of ASCII. A character beyond ASCII or a blank anywhere keeps it from being
found, the case of its letters does not matter, and what is found is read as the same rate. -/
theorem lookup_letter_by_letter :
    (∀ (s : String) (r : Rate), find? s = some r ↔
      ∃ name, (name, r.baud) ∈ Rate.nicknames ∧ List.Forall₂ SameLetter s.toList name.toList) ∧
    (∀ (s : String) (c : Char), c ∈ s.toList → 0x80 ≤ c.toNat ∨ isBlank c = true →
      find? s = none) ∧
    (∀ s t : String, List.Forall₂ SameLetter s.toList t.toList → find? s = find? t) ∧
    ∀ (s : String) (r : Rate), find? s = some r → Rate.parse s = .ok r := by
  refine ⟨?_, ?_, ?_, ?_⟩
  · intro s r
    rw [Rate.find?_eq_some_iff]
    simp only [sameLetters_iff]
  · intro s c hc hforeign
    refine Option.eq_none_iff_forall_ne_some.mpr fun r hr => ?_
    obtain ⟨hascii, hshown⟩ := shown_of_find? hr hc
    rcases hforeign with hge | hb
    · omega
    · rw [hshown] at hb
      cases hb
  · exact fun s t h => find?_congr (sameLetters_iff.mpr h)
  · exact fun s r h => parse_of_find? h

/-- Letters in both cases are found. A dotted capital I, whose small form begins with an `i`, is not,
nor is a name with a blank that no line breaks at. -/
theorem lookup_letter_by_letter_mixed :
    find? "ArDuInO-rEsEt" = some ⟨1200, by decide⟩ ∧
    Rate.parse "ArDuInO-rEsEt" = .ok ⟨1200, by decide⟩ ∧
    find? "ArDuInO-rEsEt" = find? "aRdUiNo-ReSeT" ∧
    find? "l\u0130sten" = none ∧
    find? "dfu\u00A0" = none := by
  obtain ⟨found, refused, alike, read⟩ := lookup_letter_by_letter
  have hf : find? "ArDuInO-rEsEt" = some ⟨1200, by decide⟩ :=
    (found _ _).mpr ⟨"arduino-reset", by decide, sameLetters_iff.mp (by decide)⟩
  refine ⟨hf, read _ _ hf, alike _ _ (sameLetters_iff.mp (by decide)), ?_, ?_⟩
  · exact refused _ '\u0130' (by simp) (.inl (by decide))
  · exact refused _ '\u00A0' (by simp) (.inr (by decide))

end Preset
end MagicBaud

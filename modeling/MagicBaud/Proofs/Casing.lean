import MagicBaud.Rate

namespace MagicBaud

namespace Text

/-- The characters for which lower-casing cannot bring in others than ASCII letters. A `k` is also
the small form of the Kelvin sign, and the null character stands for what is no character. -/
def IsPlain (c : Char) : Prop := c.toNat < 0x80 ∧ c ≠ 'k' ∧ c ≠ '\x00'

instance (c : Char) : Decidable (IsPlain c) :=
  inferInstanceAs (Decidable (c.toNat < 0x80 ∧ c ≠ 'k' ∧ c ≠ '\x00'))

theorem lowerChar_ascii {c : Char} (h : c.toNat < 0x80) : lowerChar c = [c.toLower] := by
  have hall : ∀ n ∈ List.range 0x80, lowerChar (Char.ofNat n) = [(Char.ofNat n).toLower] := by
    decide +kernel
  have hc := hall c.toNat (List.mem_range.mpr h)
  rwa [Char.ofNat_toNat] at hc

theorem toLower_of_not_capital {c : Char} (h : c.toNat < 0x41 ∨ 0x5A < c.toNat) :
    c.toLower = c := by
  have hn : ¬ (c.val ≥ 'A'.val ∧ c.val ≤ 'Z'.val) := by
    rintro ⟨ha, hz⟩
    have : 0x41 ≤ c.toNat := ha
    have : c.toNat ≤ 0x5A := hz
    omega
  exact dif_neg hn

/-- A number that is no code point makes the null character. -/
theorem not_isPlain_ofNat {n : Nat} (h : 0x80 ≤ n ∨ n = 0x6B) : ¬ IsPlain (Char.ofNat n) := by
  rintro ⟨hlt, hk, hz⟩
  rcases h with h | rfl
  · by_cases hv : n.isValidChar
    · have hc : Char.ofNat n = Char.ofNatAux n hv := dif_pos hv
      have hn : (Char.ofNat n).toNat = n := congrArg Char.toNat hc
      omega
    · exact hz (dif_neg hv)
  · exact hk rfl

/-- Apart from ASCII no run of capitals has small letters that are plain. -/
theorem capitalRuns_foreign : ∀ r ∈ capitalRuns,
    r.last < 0x80 ∨ 0x80 ≤ r.first + r.shift ∨ r.first = r.last ∧ r.first + r.shift = 0x6B := by
  decide +kernel

theorem exists_lowerChar_foreign {c : Char} (h : 0x80 ≤ c.toNat) :
    ∃ d ∈ lowerChar c, ¬ IsPlain d := by
  unfold lowerChar
  split
  · exact ⟨Char.ofNat 0x307, by simp, by decide⟩
  · split
    · rename_i r hr
      refine ⟨_, List.mem_singleton_self _, not_isPlain_ofNat ?_⟩
      have hh := List.find?_some hr
      simp only [CapitalRun.holds, Bool.and_eq_true, decide_eq_true_eq] at hh
      obtain ⟨⟨hfirst, hlast⟩, _⟩ := hh
      rcases capitalRuns_foreign r (List.mem_of_find?_eq_some hr) with hr | hr | ⟨hr, hs⟩
      · omega
      · left; omega
      · right; omega
    · refine ⟨c, List.mem_singleton_self c, fun hp => ?_⟩
      exact absurd hp.1 (Nat.not_lt.mpr h)

theorem lowerAt_ascii {before after : List Char} {c : Char} (h : c.toNat < 0x80) :
    lowerAt before c after = [c.toLower] := by
  have hc : c ≠ 'Σ' := by
    rintro rfl
    exact absurd h (by decide)
  rw [lowerAt, if_neg (by simp [hc]), lowerChar_ascii h]

theorem lowerFrom_ascii {before cs : List Char} (h : ∀ c ∈ cs, c.toNat < 0x80) :
    lowerFrom before cs = cs.map Char.toLower := by
  induction cs generalizing before with
  | nil => rfl
  | cons c cs ih =>
    obtain ⟨hc, hcs⟩ := List.forall_mem_cons.mp h
    rw [lowerFrom, lowerAt_ascii hc, ih hcs]
    rfl

/-- A capital sigma becomes no plain letter in either form. -/
theorem exists_lowerAt_foreign {before after : List Char} {c : Char} (h : 0x80 ≤ c.toNat) :
    ∃ d ∈ lowerAt before c after, ¬ IsPlain d := by
  unfold lowerAt
  split
  · exact ⟨'ς', List.mem_singleton_self _, by decide⟩
  · exact exists_lowerChar_foreign h

theorem exists_lowerFrom_foreign {before cs : List Char} {c : Char} (hc : c ∈ cs)
    (h : 0x80 ≤ c.toNat) : ∃ d ∈ lowerFrom before cs, ¬ IsPlain d := by
  induction cs generalizing before with
  | nil => cases hc
  | cons b cs ih =>
    rcases List.mem_cons.mp hc with rfl | hc
    · obtain ⟨d, hd, hp⟩ := exists_lowerAt_foreign h
      exact ⟨d, List.mem_append_left _ hd, hp⟩
    · obtain ⟨d, hd, hp⟩ := ih hc
      exact ⟨d, List.mem_append_right _ hd, hp⟩

/-- A plain text is the lower-cased form of another just if ASCII alone makes it so. -/
theorem lowerFrom_eq_iff {before cs name : List Char} (hn : ∀ c ∈ name, IsPlain c) :
    lowerFrom before cs = name ↔ cs.map Char.toLower = name := by
  constructor
  · intro he
    have ascii : ∀ c ∈ cs, c.toNat < 0x80 := by
      intro c hc
      rcases Nat.lt_or_ge c.toNat 0x80 with hlt | hge
      · exact hlt
      · obtain ⟨d, hd, hp⟩ := exists_lowerFrom_foreign hc hge
        exact absurd (hn d (he ▸ hd)) hp
    rw [← he, lowerFrom_ascii ascii]
  · intro he
    have ascii : ∀ c ∈ cs, c.toNat < 0x80 := by
      intro c hc
      rcases Nat.lt_or_ge c.toNat 0x80 with hlt | hge
      · exact hlt
      · have hm : c.toLower ∈ name := he ▸ List.mem_map_of_mem hc
        rw [toLower_of_not_capital (.inr (by omega))] at hm
        exact (hn c hm).1
    rw [lowerFrom_ascii ascii, he]

/-- The texts are the same but for the case of ASCII letters. -/
def SameLetters (s t : String) : Prop := s.toList.map Char.toLower = t.toList.map Char.toLower

instance (s t : String) : Decidable (SameLetters s t) :=
  inferInstanceAs (Decidable (s.toList.map Char.toLower = t.toList.map Char.toLower))

end Text

namespace Preset
open Text

/-- The names are in small letters, and without a `k`. -/
theorem name_plain {p : Preset} (h : p ∈ all) :
    (∀ c ∈ p.name.toList, IsPlain c) ∧ p.name.toList.map Char.toLower = p.name.toList := by
  have hplain : all.all (fun p => p.name.toList.all (fun c => decide (IsPlain c)) &&
      p.name.toList.map Char.toLower == p.name.toList) = true := by decide
  have hp := List.all_eq_true.mp hplain p h
  simp only [Bool.and_eq_true, List.all_eq_true, decide_eq_true_eq, beq_iff_eq] at hp
  exact hp

theorem lowercase_eq_name_iff {p : Preset} (h : p ∈ all) {s : String} :
    lowercase s = p.name ↔ SameLetters s p.name := by
  obtain ⟨hplain, hsmall⟩ := name_plain h
  rw [SameLetters, hsmall, ← lowerFrom_eq_iff hplain, ← String.toList_inj, lowercase,
    String.toList_ofList]

/-- No name stands for two rates. -/
theorem rate_unique {p q : Preset} (hp : p ∈ all) (hq : q ∈ all) (h : p.name = q.name) :
    p.rate = q.rate := by
  have hunique : (all.all fun p => all.all fun q => p.name != q.name || p.rate == q.rate) = true :=
    by decide
  have hpq := List.all_eq_true.mp (List.all_eq_true.mp hunique p hp) q hq
  simpa [h] using hpq

/-- What is looked up is found just under its name, up to the case of ASCII letters. -/
theorem find?_eq_some_iff {s : String} {r : Rate} :
    find? s = some r ↔ ∃ p ∈ all, SameLetters s p.name ∧ p.rate = r := by
  unfold find?
  rw [Option.map_eq_some_iff]
  constructor
  · rintro ⟨p, hp, hr⟩
    have hm := List.mem_of_find?_eq_some hp
    have hn := List.find?_some hp
    refine ⟨p, hm, ?_, hr⟩
    exact (lowercase_eq_name_iff hm).mp (beq_iff_eq.mp hn).symm
  · rintro ⟨p, hm, hs, hr⟩
    have hl := (lowercase_eq_name_iff hm).mpr hs
    have hfound : (all.find? fun p => p.name == lowercase s).isSome := by
      exact List.find?_isSome.mpr ⟨p, hm, beq_iff_eq.mpr hl.symm⟩
    obtain ⟨q, hq⟩ := Option.isSome_iff_exists.mp hfound
    refine ⟨q, hq, ?_⟩
    have hn := List.find?_some hq
    rw [← hr]
    exact rate_unique (List.mem_of_find?_eq_some hq) hm ((beq_iff_eq.mp hn).trans hl)

/-- All names begin with a letter. -/
theorem not_sameLetters_name {p : Preset} (h : p ∈ all) {s : String} {c : Char} {cs : List Char}
    (hs : s.toList = c :: cs) (hc : c.toNat < 0x41) : ¬ SameLetters s p.name := by
  intro hsame
  have hhead : all.all (fun p => p.name.toList.head?.all (0x41 ≤ ·.toNat)) = true := by decide
  have hp := List.all_eq_true.mp hhead p h
  rw [SameLetters, (name_plain h).2, hs, List.map_cons, toLower_of_not_capital (.inl hc)] at hsame
  simp only [← hsame, List.head?_cons, Option.all_some, decide_eq_true_eq] at hp
  omega

theorem find?_eq_none {s : String} {c : Char} {cs : List Char} (hs : s.toList = c :: cs)
    (hc : c.toNat < 0x41) : find? s = none := by
  refine Option.eq_none_iff_forall_ne_some.mpr fun r hr => ?_
  obtain ⟨p, hp, hsame, _⟩ := find?_eq_some_iff.mp hr
  exact not_sameLetters_name hp hs hc hsame

end Preset
end MagicBaud

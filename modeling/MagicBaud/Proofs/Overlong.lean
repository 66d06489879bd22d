import MagicBaud.Proofs.Lines

namespace MagicBaud.Toml
open Text

variable {n : Nat} {rest : List Char}

theorem cutWhere_of_not {p : Char → Bool} {cs : List Char} (h : ∀ c ∈ cs, p c = false) :
    cutWhere p cs = (cs, none) := by
  have hd : cs.dropWhile (!p ·) = [] := List.dropWhile_eq_nil_iff.mpr fun c hc => by simp [h c hc]
  simp only [cutWhere, hd]

theorem not_mem_write {c : Char} (hc : c.isDigit = false) : c ∉ Decimal.write n :=
  fun h => Bool.false_ne_true (hc.symm.trans (Decimal.isDigit_of_mem_write h))

/-- Digits alone have neither a point nor an exponent. -/
theorem real?_write (n : Nat) : real? (Decimal.write n) = none := by
  have hs := sign_of_isDigit fun c hc => Decimal.isDigit_of_mem_write (n := n) hc
  have hinf : Decimal.write n ≠ "inf".toList :=
    fun h => not_mem_write (n := n) (c := 'i') rfl (h ▸ by decide)
  have hnan : Decimal.write n ≠ "nan".toList :=
    fun h => not_mem_write (n := n) (c := 'n') rfl (h ▸ by decide)
  have hcut : cutWhere (· == '.') (Decimal.write n) = (Decimal.write n, none) :=
    cutWhere_of_not fun c hc => beq_eq_false_iff_ne.mpr fun h => not_mem_write rfl (h ▸ hc)
  have hpower : cutWhere (fun c => c == 'e' || c == 'E') (Decimal.write n) =
      (Decimal.write n, none) := by
    refine cutWhere_of_not fun c hc => ?_
    have hdigit := Decimal.isDigit_of_mem_write hc
    rw [Bool.or_eq_false_iff, beq_eq_false_iff_ne, beq_eq_false_iff_ne]
    constructor <;> (rintro rfl; cases hdigit)
  simp only [real?, hs, if_neg hinf, if_neg hnan, decimalReal?, hpower, hcut,
    Option.isNone_none, Bool.and_self, if_true]

theorem integer?_write (h : 9223372036854775808 ≤ n) : integer? (Decimal.write n) = none := by
  have hd : ∀ c ∈ (Decimal.write n).tail, c.isDigit = true :=
    fun c hc => Decimal.isDigit_of_mem_write (List.mem_of_mem_tail hc)
  rw [integer?_eq_decimal hd, decimalInteger?_write, Option.bind_some]
  exact dif_neg (by omega)

theorem date?_write (n : Nat) : date? (Decimal.write n) = none :=
  date?_eq_none fun h => not_mem_write rfl (List.mem_of_mem_tail h)

theorem wordValue?_write (h : 9223372036854775808 ≤ n) : wordValue? (Decimal.write n) = none := by
  have ht : Decimal.write n ≠ "true".toList :=
    fun h => not_mem_write (n := n) (c := 't') rfl (h ▸ by decide)
  have hf : Decimal.write n ≠ "false".toList :=
    fun h => not_mem_write (n := n) (c := 'f') rfl (h ▸ by decide)
  have hm : moment? (Decimal.write n) = none :=
    moment?_eq_none (fun h => not_mem_write rfl (List.mem_of_mem_tail h)) (not_mem_write rfl)
  simp only [wordValue?, if_neg ht, if_neg hf, hm, integer?_write h, real?_write, Option.map_none]

theorem isWordChar_of_mem_write {c : Char} (h : c ∈ Decimal.write n) : isWordChar c = true := by
  simp [isWordChar, Char.isAlphanum, Decimal.isDigit_of_mem_write h]

theorem readWord_write (h : 9223372036854775808 ≤ n)
    (hr : ∀ c ∈ rest.head?, isWordChar c = false) : readWord (Decimal.write n ++ rest) = none := by
  have hw : word (Decimal.write n ++ rest) = (Decimal.write n, rest) :=
    word_append (fun c hc => isWordChar_of_mem_write hc) hr
  simp only [readWord, hw, date?_write, wordValue?_write h, Option.map_none, ite_self]

section
variable {c : Char} {cs : List Char}

theorem array_eq_none {item : Reader Value} (h : c ≠ '[') : (array item).read (c :: cs) = none := by
  simp only [array]
  split
  · rename_i he
    exact absurd (List.cons.inj he).1 h
  · rfl

theorem inlineTable_eq_none {pair : Reader (KeyPath × Value)} (h : c ≠ '{') :
    (inlineTable pair).read (c :: cs) = none := by
  simp only [inlineTable]
  split
  · rename_i he
    exact absurd (List.cons.inj he).1 h
  · rfl

/-- Where a digit stands, there is a word or no value at all. -/
theorem value_eq_none (hc : c.isDigit = true) (hw : readWord (c :: cs) = none) :
    value.read (c :: cs) = none := by
  have hne : ∀ d, d.isDigit = false → c ≠ d := by
    rintro d hd rfl
    exact Bool.false_ne_true (hd.symm.trans hc)
  have hscalar : scalar.read (c :: cs) = none := by
    have hstring := string_eq_none (hne '"' rfl) (hne '\'' rfl) cs
    simp only [scalar, Reader.orElse, Reader.map, hstring, Option.map_none, Option.none_or]
    exact hw
  have hvalue : ∀ levels, (valueWithin (levels + 1)).read (c :: cs) = none := by
    intro levels
    rw [valueWithin]
    simp only [Reader.orElse, Reader.map, Reader.mapSome, hscalar, array_eq_none (hne '[' rfl),
      inlineTable_eq_none (hne '{' rfl), Option.map_none, Option.bind_none, Option.none_or]
  exact hvalue _

end

theorem value_write (h : 9223372036854775808 ≤ n) (hr : Detached rest) :
    value.read (Decimal.write n ++ rest) = none := by
  obtain ⟨c, cs, hn⟩ := List.exists_cons_of_ne_nil (l := Decimal.write n) Nat.toDigits_ne_nil
  have hw := readWord_write h fun c hc => (hr c hc).1
  rw [hn, List.cons_append] at hw ⊢
  exact value_eq_none (Decimal.isDigit_of_mem_write (hn ▸ List.mem_cons_self)) hw

/-- A line in which a number is too large ends the reading. -/
theorem document?_overlong {key text : String} {es : Entries} (hk : BareKey key)
    (h : Through es text.toList (key.toList ++ ' ' :: '=' :: ' ' :: (Decimal.write n ++ rest)))
    (hr : Detached rest) (hn : 9223372036854775808 ≤ n) : document? text = none := by
  have hw : skipWhite (' ' :: (Decimal.write n ++ rest)) = Decimal.write n ++ rest := by
    obtain ⟨c, cs, hc⟩ := List.exists_cons_of_ne_nil (l := Decimal.write n) Nat.toDigits_ne_nil
    rw [hc]
    exact skipWhite_of_isWordChar (isWordChar_of_mem_write (hc ▸ List.mem_cons_self)) _
  have hitem : item.read (key.toList ++ ' ' :: '=' :: ' ' :: (Decimal.write n ++ rest)) = none := by
    rw [hk.item_eq, hw, value_write hn hr, Option.map_none]
  have hitems := items_of_no_item (hk.skipWhite _) (hk.lineEnd?_eq_none _) hitem
  rw [document?, withoutMark_eq (h.head_ne (hk.head_ne _)), h.items, hitems, Option.map_none,
    Option.bind_none]

end MagicBaud.Toml

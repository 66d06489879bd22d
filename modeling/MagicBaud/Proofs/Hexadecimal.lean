namespace MagicBaud.Text.Hexadecimal

/-- The digits of a number, where letters may be small or capital. -/
inductive Numeral : List Char → Nat → Prop
  | nil : Numeral [] 0
  | snoc {cs : List Char} {n d : Nat} {c : Char} (h : Numeral cs n) (hd : d < 16)
      (hc : c = d.digitChar ∨ c = d.digitChar.toUpper) : Numeral (cs ++ [c]) (n * 16 + d)

/-- The last digits of a number, as many as the width says. -/
def write : Nat → Nat → List Char
  | 0, _ => []
  | width + 1, n => write width (n / 16) ++ [(n % 16).digitChar]

theorem length_write (width n : Nat) : (write width n).length = width := by
  induction width generalizing n with
  | zero => rfl
  | succ width ih => rw [write, List.length_append, ih, List.length_singleton]

theorem write_zero (width : Nat) : write width 0 = List.replicate width '0' := by
  induction width with
  | zero => rfl
  | succ width ih =>
    rw [write, Nat.zero_div, ih, List.replicate_succ']
    rfl

theorem numeral_write {width n : Nat} (h : n < Nat.pow 16 width) : Numeral (write width n) n := by
  induction width generalizing n with
  | zero =>
    obtain rfl : n = 0 := Nat.lt_one_iff.mp h
    exact .nil
  | succ width ih =>
    have hq : n / 16 < Nat.pow 16 width := (Nat.div_lt_iff_lt_mul (by decide)).mpr h
    have hn : n / 16 * 16 + n % 16 = n := by omega
    have hs := Numeral.snoc (ih hq) (Nat.mod_lt n (by decide)) (.inl rfl)
    rwa [hn] at hs

/-- Zeros before the digits of a number make up its numeral of that width. -/
theorem padded_eq_write {width n : Nat} (hw : 0 < width) (h : n < Nat.pow 16 width) :
    List.replicate (width - (Nat.toDigits 16 n).length) '0' ++ Nat.toDigits 16 n =
      write width n := by
  induction width generalizing n with
  | zero => cases hw
  | succ width ih =>
    by_cases hn : n < 16
    · rw [write, Nat.toDigits_of_lt_base hn, Nat.div_eq_of_lt hn, Nat.mod_eq_of_lt hn, write_zero]
      rfl
    · have hq : n / 16 < Nat.pow 16 width := (Nat.div_lt_iff_lt_mul (by decide)).mpr h
      have hpos : 0 < width := by
        cases width with
        | zero => exact absurd h hn
        | succ width => exact Nat.succ_pos width
      rw [write, Nat.toDigits_eq_if (by decide : 1 < 16), if_neg hn, List.length_append,
        List.length_singleton, Nat.add_sub_add_right, ← List.append_assoc, ih hpos hq]

end MagicBaud.Text.Hexadecimal

import MagicBaud.Proofs.Hexadecimal
import MagicBaud.Proofs.Numerals
import MagicBaud.Toml.Nested

namespace MagicBaud.Toml
open Text

/-- A character in a string between double quotes: most printable ones stand for themselves, and all
may be given by their numbers, in four or eight digits. -/
inductive Spelled : Char → List Char → Prop
  | plain {c : Char} (low : 0x20 ≤ c.toNat) (high : c.toNat < 0x7F) (hq : c ≠ '"')
      (hb : c ≠ '\\') : Spelled c [c]
  | short {c : Char} {ds : List Char} (h : Hexadecimal.Numeral ds c.toNat) (hl : ds.length = 4) :
      Spelled c ('\\' :: 'u' :: ds)
  | long {c : Char} {ds : List Char} (h : Hexadecimal.Numeral ds c.toNat) (hl : ds.length = 8) :
      Spelled c ('\\' :: 'U' :: ds)

inductive Spells : List Char → List Char → Prop
  | nil : Spells [] []
  | cons {c : Char} {cs w ws : List Char} (h : Spelled c w) (rest : Spells cs ws) :
      Spells (c :: cs) (w ++ ws)

/-- The ways to write a value. -/
inductive Value.Written : Value → List Char → Prop
  | text {s : String} {w : List Char} (h : Spells s.toList w) :
      Written (.text s) ('"' :: (w ++ ['"']))
  | integer {n : Integer} : Written (.integer n) n.text.toList

theorem exists_spelled (c : Char) : ∃ w, Spelled c w := by
  have hc : c.toNat < Nat.pow 16 8 := c.val.toNat_lt
  exact ⟨_, .long (Hexadecimal.numeral_write hc) (Hexadecimal.length_write 8 c.toNat)⟩

theorem exists_spells (cs : List Char) : ∃ w, Spells cs w := by
  induction cs with
  | nil => exact ⟨[], .nil⟩
  | cons c cs ih =>
    obtain ⟨w, hw⟩ := exists_spelled c
    obtain ⟨ws, hws⟩ := ih
    exact ⟨w ++ ws, .cons hw hws⟩

theorem hexDigit?_digitChar {d : Nat} (h : d < 16) :
    hexDigit? d.digitChar = some d ∧ hexDigit? d.digitChar.toUpper = some d := by
  revert d
  decide

/-- The digits of a numeral add up to its number. -/
theorem Numeral.mapM_hexDigit? {cs : List Char} {n : Nat} (h : Hexadecimal.Numeral cs n) :
    ∃ ds, cs.mapM hexDigit? = some ds ∧ ds.length = cs.length ∧
      ds.foldl (fun n d => n * 16 + d) 0 = n := by
  induction h with
  | nil => exact ⟨[], rfl, rfl, rfl⟩
  | @snoc cs n d c _ hd hc ih =>
    obtain ⟨ds, hm, hl, hf⟩ := ih
    have hx : hexDigit? c = some d := by
      rcases hc with rfl | rfl
      · exact (hexDigit?_digitChar hd).1
      · exact (hexDigit?_digitChar hd).2
    refine ⟨ds ++ [d], ?_, ?_, ?_⟩
    · rw [List.mapM_append, hm]
      simp [hx]
    · rw [List.length_append, List.length_append, hl]
      rfl
    · rw [List.foldl_append, hf]
      rfl

theorem scalar?_toNat (c : Char) : scalar? c.toNat = some c :=
  dif_pos c.valid

theorem codePoint?_numeral {ds : List Char} {c : Char} (h : Hexadecimal.Numeral ds c.toNat)
    (rest : List Char) : codePoint? ds.length (ds ++ rest) = some (c, rest) := by
  obtain ⟨digits, hm, hl, hf⟩ := Numeral.mapM_hexDigit? h
  simp only [codePoint?, List.take_left, List.drop_left, hm, Option.bind_eq_bind,
    Option.bind_some, hl, if_true, hf, scalar?_toNat]

/-- What follows a backslash is read as the character that it stands for. -/
theorem shortBody_escape {c : Char} {cs rest : List Char} (h : escaped? cs = some (c, rest)) :
    shortBody '"' ('\\' :: cs) =
      (shortBody '"' rest).map (fun (s, after) => (c :: s, after)) := by
  have hq : '\\' ≠ '"' := by decide
  rw [shortBody, if_neg hq, if_pos (by decide)]
  split
  · rename_i d rest' h'
    cases h.symm.trans h'
    rfl
  · rename_i h'
    cases h.symm.trans h'

theorem isPlain_of_le {c : Char} (low : 0x20 ≤ c.toNat) (high : c.toNat < 0x7F) :
    isPlain c = true := by
  have hn : c.toNat ≠ 0x7F := by omega
  simp [isPlain, low, hn]

theorem Spelled.shortBody {c : Char} {w : List Char} (h : Spelled c w) (rest : List Char) :
    shortBody '"' (w ++ rest) =
      (shortBody '"' rest).map (fun (s, after) => (c :: s, after)) := by
  cases h with
  | plain low high hq hb =>
    rw [List.cons_append, List.nil_append, Toml.shortBody, if_neg hq, if_neg (by simp [hb]),
      if_pos (isPlain_of_le low high)]
  | short h hl =>
    have he : escaped? ('u' :: _ ++ rest) = some (c, rest) := hl ▸ codePoint?_numeral h rest
    exact shortBody_escape he
  | long h hl =>
    have he : escaped? ('U' :: _ ++ rest) = some (c, rest) := hl ▸ codePoint?_numeral h rest
    exact shortBody_escape he

theorem Spells.shortBody {cs w : List Char} (h : Spells cs w) (rest : List Char) :
    shortBody '"' (w ++ '"' :: rest) = some (cs, rest) := by
  induction h with
  | nil => rw [List.nil_append, Toml.shortBody, if_pos rfl]
  | cons hc _ ih =>
    rw [List.append_assoc, hc.shortBody, ih]
    rfl

/-- Between the marks no mark stands for itself. -/
theorem Spells.head_ne {cs w : List Char} (h : Spells cs w) : w.head? ≠ some '"' := by
  cases h with
  | nil => exact fun h => nomatch h
  | cons hc _ =>
    cases hc with
    | plain _ _ hq _ => exact fun h => hq (Option.some.inj h)
    | short | long => exact fun h => absurd (Option.some.inj h) (by decide)

theorem longString_of_head_ne {cs : List Char} (h : cs.head? ≠ some '"') :
    (longString '"').read ('"' :: cs) = none := by
  cases cs with
  | nil => rfl
  | cons c cs =>
    have hc : c ≠ '"' := fun hc => h (congrArg some hc)
    cases cs with
    | nil => rfl
    | cons d cs => exact if_neg fun hm => hc hm.2.1

/-- Two marks are a whole string if no third follows. -/
theorem longString_of_two {rest : List Char} (h : rest.head? ≠ some '"') :
    (longString '"').read ('"' :: '"' :: rest) = none := by
  cases rest with
  | nil => rfl
  | cons c rest =>
    have hc : c ≠ '"' := fun hc => h (congrArg some hc)
    exact if_neg fun hm => hc hm.2.2

theorem Spells.string {cs w rest : List Char} (h : Spells cs w) (hr : rest.head? ≠ some '"') :
    string.read ('"' :: (w ++ '"' :: rest)) = some (cs, rest) := by
  have hlong : (longString '"').read ('"' :: (w ++ '"' :: rest)) = none := by
    cases w with
    | nil => exact longString_of_two hr
    | cons c w => exact longString_of_head_ne h.head_ne
  have hshort : (shortString '"').read ('"' :: (w ++ '"' :: rest)) = some (cs, rest) :=
    h.shortBody rest
  simp only [Toml.string, Reader.orElse, hlong, hshort, Option.none_or, Option.some_or]

theorem digits?_eq_mapM {f : Char → Option Nat} {cs : List Char} (hn : cs ≠ [])
    (hu : '_' ∉ cs) : digits? f cs = cs.mapM f := by
  fun_induction digits? f cs with
  | case1 => exact absurd rfl hn
  | case2 c => cases hf : f c <;> simp [hf]
  | case3 c cs => simp at hu
  | case4 c cs hne _ ih =>
    rw [ih hne (fun hm => hu (List.mem_cons_of_mem c hm)), List.mapM_cons]
    cases f c with
    | none => rfl
    | some d => cases cs.mapM f <;> rfl

/-- Induction on the number: its last digit stands behind those of its tenth. -/
theorem mapM_write (n : Nat) : ∃ ds, (Decimal.write n).mapM Decimal.digit? = some ds ∧
    ofDigits 10 ds = n ∧ (0 < n → ds.head? ≠ some 0) := by
  induction n using Nat.strongRecOn with
  | ind n ih =>
    have hd := Decimal.digit?_digitChar (Nat.mod_lt n (by decide : 0 < 10))
    rw [Decimal.write, Nat.toDigits_eq_if (by decide : 1 < 10)]
    by_cases hn : n < 10
    · rw [if_pos hn, ← Nat.mod_eq_of_lt hn]
      refine ⟨[n % 10], by simp [hd], by simp [ofDigits], ?_⟩
      intro hpos hz
      have := Option.some.inj hz
      omega
    · obtain ⟨ds, hm, ho, hz⟩ := ih (n / 10) (by omega)
      rw [if_neg hn]
      refine ⟨ds ++ [n % 10], ?_, ?_, ?_⟩
      · rw [Decimal.write] at hm
        rw [List.mapM_append, hm]
        simp [hd]
      · rw [ofDigits, List.foldl_append]
        rw [ofDigits] at ho
        rw [ho]
        simp only [List.foldl_cons, List.foldl_nil]
        omega
      · intro _
        cases ds with
        | nil =>
          have : ofDigits 10 [] = 0 := rfl
          omega
        | cons d ds => exact hz (by omega)

theorem wholeDigits?_write (n : Nat) :
    ∃ ds, wholeDigits? (Decimal.write n) = some ds ∧ ofDigits 10 ds = n := by
  obtain ⟨ds, hm, ho, hz⟩ := mapM_write n
  refine ⟨ds, ?_, ho⟩
  have hu : '_' ∉ Decimal.write n := fun hu => nomatch Decimal.isDigit_of_mem_write hu
  have hd : digits? Decimal.digit? (Decimal.write n) = some ds :=
    (digits?_eq_mapM Nat.toDigits_ne_nil hu).trans hm
  have hlead : ¬ (ds.length > 1 && ds.head? == some 0) = true := by
    intro h
    obtain ⟨hlen, hhead⟩ := Bool.and_eq_true_iff.mp h
    obtain rfl : n = 0 := Nat.eq_zero_of_not_pos fun hpos => hz hpos (beq_iff_eq.mp hhead)
    cases hm
    cases hlen
  simp only [wholeDigits?, hd, Option.bind_eq_bind, Option.bind_some, if_neg hlead]

theorem sign_of_isDigit {cs : List Char} (h : ∀ c ∈ cs, c.isDigit = true) :
    sign cs = (false, cs) := by
  unfold sign
  split
  · exact nomatch h '+' List.mem_cons_self
  · exact nomatch h '-' List.mem_cons_self
  · rfl

theorem decimalInteger?_write (n : Nat) : decimalInteger? (Decimal.write n) = some (n : Int) := by
  obtain ⟨ds, hw, ho⟩ := wholeDigits?_write n
  have hs := sign_of_isDigit fun c hc => Decimal.isDigit_of_mem_write (n := n) hc
  simp only [decimalInteger?, hs, hw, Option.map_some, Bool.false_eq_true, if_false, ho]

/-- Only digits behind the first character leave no room for the mark of a base. -/
theorem integer?_eq_decimal {cs : List Char} (h : ∀ c ∈ cs.tail, c.isDigit = true) :
    integer? cs = (decimalInteger? cs).bind Integer.ofInt? := by
  unfold integer?
  split
  · exact nomatch h 'x' List.mem_cons_self
  · exact nomatch h 'o' List.mem_cons_self
  · exact nomatch h 'b' List.mem_cons_self
  · rfl

namespace Integer

theorem ofInt?_val (n : Integer) : ofInt? n.val = some n := dif_pos ⟨n.low, n.high⟩

theorem toList_text (n : Integer) : n.text.toList =
    if n.val < 0 then '-' :: Decimal.write n.val.natAbs else Decimal.write n.val.natAbs := by
  rw [text, String.toList_ofList]

/-- A sign stands only in front, and all else are digits. -/
theorem isDigit_of_mem_tail {n : Integer} {c : Char} (h : c ∈ n.text.toList.tail) :
    c.isDigit = true := by
  rw [toList_text] at h
  split at h
  · exact Decimal.isDigit_of_mem_write h
  · exact Decimal.isDigit_of_mem_write (List.mem_of_mem_tail h)

theorem mem_text {n : Integer} {c : Char} (h : c ∈ n.text.toList) :
    c = '-' ∨ c.isDigit = true := by
  rw [toList_text] at h
  split at h
  · rcases List.mem_cons.mp h with rfl | h
    · exact .inl rfl
    · exact .inr (Decimal.isDigit_of_mem_write h)
  · exact .inr (Decimal.isDigit_of_mem_write h)

theorem text_ne_nil (n : Integer) : n.text.toList ≠ [] := by
  rw [toList_text]
  split
  · exact List.cons_ne_nil _ _
  · exact Nat.toDigits_ne_nil

theorem integer?_text (n : Integer) : integer? n.text.toList = some n := by
  rw [integer?_eq_decimal fun c => isDigit_of_mem_tail, toList_text]
  obtain ⟨ds, hw, ho⟩ := wholeDigits?_write n.val.natAbs
  have hval : (if n.val < 0 then decimalInteger? ('-' :: Decimal.write n.val.natAbs)
      else decimalInteger? (Decimal.write n.val.natAbs)) = some n.val := by
    split
    · simp only [decimalInteger?, sign, hw, Option.map_some, if_true, ho]
      exact congrArg some (by omega)
    · rw [decimalInteger?_write]
      exact congrArg some (by omega)
  rw [apply_ite decimalInteger?, hval, Option.bind_some, ofInt?_val]

end Integer

theorem date?_eq_none {cs : List Char} (h : '-' ∉ cs.tail) : date? cs = none := by
  unfold date?
  split
  · exact absurd (by simp) h
  · rfl

theorem clock?_eq_none {cs : List Char} (h : ':' ∉ cs) : clock? cs = none := by
  unfold clock?
  split
  · exact absurd (by simp) h
  · rfl

theorem moment?_eq_none {cs : List Char} (hd : '-' ∉ cs.tail) (hc : ':' ∉ cs) :
    moment? cs = none := by
  have hdate : date? (cs.take 10) = none := by
    apply date?_eq_none
    cases cs with
    | nil => exact List.not_mem_nil
    | cons c cs => exact fun hm => hd (List.mem_of_mem_take (i := 9) hm)
  simp only [moment?, hdate, clock?_eq_none hc]

namespace Integer
variable {n : Integer}

theorem dash_not_mem_tail (n : Integer) : '-' ∉ n.text.toList.tail :=
  fun h => nomatch isDigit_of_mem_tail h

theorem not_mem_text {c : Char} (hd : c ≠ '-') (hc : c.isDigit = false) :
    c ∉ n.text.toList := by
  intro h
  rcases mem_text h with he | he
  · exact hd he
  · cases hc.symm.trans he

theorem isWordChar_of_mem_text {c : Char} (h : c ∈ n.text.toList) : isWordChar c = true := by
  rcases mem_text h with rfl | h
  · rfl
  · simp [isWordChar, Char.isAlphanum, h]

theorem wordValue?_text (n : Integer) : wordValue? n.text.toList = some (.integer n) := by
  have ht : n.text.toList ≠ "true".toList :=
    fun h => not_mem_text (n := n) (c := 't') (by decide) rfl (h ▸ by decide)
  have hf : n.text.toList ≠ "false".toList :=
    fun h => not_mem_text (n := n) (c := 'f') (by decide) rfl (h ▸ by decide)
  have hm : moment? n.text.toList = none :=
    moment?_eq_none n.dash_not_mem_tail (not_mem_text (by decide) rfl)
  simp only [wordValue?, if_neg ht, if_neg hf, hm, integer?_text]

end Integer

/-- The longest word ends where no character of a word follows. -/
theorem word_append {w rest : List Char} (hw : ∀ c ∈ w, isWordChar c = true)
    (hr : ∀ c ∈ rest.head?, isWordChar c = false) : word (w ++ rest) = (w, rest) := by
  have ht : rest.takeWhile isWordChar = [] ∧ rest.dropWhile isWordChar = rest := by
    cases rest with
    | nil => exact ⟨rfl, rfl⟩
    | cons c rest =>
      have hc := hr c rfl
      simp [hc]
  rw [word, List.takeWhile_append_of_pos hw, List.dropWhile_append_of_pos hw, ht.1, ht.2,
    List.append_nil]

theorem skipWhite_of_isWordChar {c : Char} (h : isWordChar c = true) (cs : List Char) :
    skipWhite (c :: cs) = c :: cs := by
  have hb : c ≠ ' ' := fun he => nomatch he ▸ h
  have ht : c ≠ '\t' := fun he => nomatch he ▸ h
  exact List.dropWhile_cons_of_neg (by simp [isWhite, hb, ht])

theorem Integer.readWord (n : Integer) {rest : List Char}
    (hr : ∀ c ∈ rest.head?, isWordChar c = false) :
    readWord (n.text.toList ++ rest) = some (.integer n, rest) := by
  have hw : word (n.text.toList ++ rest) = (n.text.toList, rest) :=
    word_append (fun c hc => isWordChar_of_mem_text hc) hr
  have hd : date? n.text.toList = none := date?_eq_none n.dash_not_mem_tail
  have hn : n.text.toList.isEmpty = false := List.isEmpty_eq_false_iff.mpr n.text_ne_nil
  simp only [Toml.readWord, hw, hd, hn, wordValue?_text, Bool.false_eq_true, if_false,
    Option.map_some]

/-- No value goes on here: the text ends, or there is a character of no word and no quotation. -/
def Detached (rest : List Char) : Prop :=
  ∀ c ∈ rest.head?, isWordChar c = false ∧ c ≠ '"'

theorem string_eq_none {c : Char} (hd : c ≠ '"') (hs : c ≠ '\'') (cs : List Char) :
    string.read (c :: cs) = none := by
  have hlong : ∀ mark, c ≠ mark → (longString mark).read (c :: cs) = none := by
    intro mark hm
    match cs with
    | [] => rfl
    | [_] => rfl
    | _ :: _ :: _ => exact if_neg fun h => hm h.1
  have hshort : ∀ mark, c ≠ mark → (shortString mark).read (c :: cs) = none :=
    fun mark hm => if_neg hm
  simp only [string, Reader.orElse, hlong _ hd, hlong _ hs, hshort _ hd, hshort _ hs,
    Option.none_or]

theorem Integer.string_eq_none (n : Integer) (rest : List Char) :
    string.read (n.text.toList ++ rest) = none := by
  obtain ⟨c, cs, hn⟩ := List.exists_cons_of_ne_nil n.text_ne_nil
  have hw : isWordChar c = true := isWordChar_of_mem_text (hn ▸ List.mem_cons_self)
  rw [hn]
  exact Toml.string_eq_none (fun h => nomatch h ▸ hw) (fun h => nomatch h ▸ hw) _

namespace Value.Written
variable {v : Value} {w rest : List Char}

theorem scalar (h : v.Written w) (hr : Detached rest) :
    scalar.read (w ++ rest) = some (v, rest) := by
  cases h with
  | @text s w hs =>
    have hq : rest.head? ≠ some '"' := fun hq => (hr '"' hq).2 rfl
    have h := hs.string hq
    rw [List.cons_append, List.append_assoc, List.cons_append, List.nil_append]
    simp only [Toml.scalar, Reader.orElse, Reader.map, h, Option.map_some, Option.some_or,
      String.ofList_toList]
  | @integer n =>
    have hw := n.readWord fun c hc => (hr c hc).1
    simp only [Toml.scalar, Reader.orElse, Reader.map, n.string_eq_none, Option.map_none,
      Option.none_or]
    exact hw

/-- A value without parts is looked for first. -/
theorem value (h : v.Written w) (hr : Detached rest) :
    value.read (w ++ rest) = some (v, rest) := by
  have hs := h.scalar hr
  have hv : Toml.value.read (w ++ rest) = (Toml.scalar.read (w ++ rest)).or _ := rfl
  rw [hv, hs, Option.some_or]

theorem not_white (h : v.Written w) (rest : List Char) : skipWhite (w ++ rest) = w ++ rest := by
  cases h with
  | text => rfl
  | @integer n =>
    obtain ⟨c, cs, hn⟩ := List.exists_cons_of_ne_nil n.text_ne_nil
    rw [hn]
    exact skipWhite_of_isWordChar (Integer.isWordChar_of_mem_text (hn ▸ List.mem_cons_self)) _

end Value.Written

end MagicBaud.Toml

import Mathlib.Algebra.Order.Field.Rat
import Mathlib.Data.List.DropRight
import Mathlib.Tactic.FieldSimp
import Mathlib.Tactic.Linarith
import MagicBaud.Hardware
import MagicBaud.Proofs.Transcript

namespace MagicBaud

namespace Text.Decimal

/-- A number in digits, perhaps with a point and more digits behind it, and its exact value. -/
inductive Figure : List Char → ℚ → Prop
  | whole {ds : List Char} (hn : ds ≠ []) (hd : ∀ c ∈ ds, c.isDigit = true) :
      Figure ds (Nat.ofDigitChars 10 ds 0)
  | broken {ds fs : List Char} (hn : ds ≠ []) (hd : ∀ c ∈ ds, c.isDigit = true) (hf : fs ≠ [])
      (hp : ∀ c ∈ fs, c.isDigit = true) :
      Figure (ds ++ '.' :: fs)
        (Nat.ofDigitChars 10 ds 0 + Nat.ofDigitChars 10 fs 0 / 10 ^ fs.length)

/-- No zero of the figure could be left out, neither in front nor at the end behind a point. -/
structure Concise (cs : List Char) : Prop where
  front : cs.head? ≠ some '0'
  back : '.' ∈ cs → cs.getLast? ≠ some '0'

namespace Figure
variable {cs cs' : List Char} {q q' : ℚ}

theorem mem (h : Figure cs q) {c : Char} (hc : c ∈ cs) : c = '.' ∨ c.isDigit = true := by
  cases h with
  | whole _ hd => exact .inr (hd c hc)
  | broken _ hd _ hp =>
    rcases List.mem_append.mp hc with hc | hc
    · exact .inr (hd c hc)
    · rcases List.mem_cons.mp hc with rfl | hc
      · exact .inl rfl
      · exact .inr (hp c hc)

/-- The digits before the point. -/
theorem takeWhile_isDigit {ds fs : List Char} (hd : ∀ c ∈ ds, c.isDigit = true) :
    (ds ++ '.' :: fs).takeWhile Char.isDigit = ds := by
  rw [List.takeWhile_append_of_pos hd, List.takeWhile_cons_of_neg (by decide), List.append_nil]

/-- A figure has one value. -/
theorem unique (h : Figure cs q) (h' : Figure cs' q') (he : cs = cs') : q = q' := by
  have pointless : ∀ {ds es fs : List Char}, (∀ c ∈ ds, c.isDigit = true) →
      ds ≠ es ++ '.' :: fs := by
    rintro ds es fs hd rfl
    exact nomatch hd '.' (by simp)
  cases h with
  | whole hn hd =>
    cases h' with
    | whole => rw [he]
    | broken => exact absurd he (pointless hd)
  | @broken ds fs _ hd _ _ =>
    cases h' with
    | whole _ hd' => exact absurd he.symm (pointless hd')
    | @broken ds' fs' _ hd' _ _ =>
      have hds : ds = ds' := by
        rw [← takeWhile_isDigit hd, he, takeWhile_isDigit hd']
      subst hds
      have hfs : '.' :: fs = '.' :: fs' := List.append_cancel_left he
      rw [(List.cons.inj hfs).2]

end Figure

/-- Induction on the number: all its digits but the last are those of its tenth. -/
theorem head?_write_ne {n : Nat} (hn : 0 < n) : (write n).head? ≠ some '0' := by
  induction n using Nat.strongRecOn with
  | ind n ih =>
    rw [write, Nat.toDigits_eq_if (by decide : 1 < 10)]
    have single : ∀ d < 10, 0 < d → [d.digitChar].head? ≠ some '0' := by decide
    by_cases h : n < 10
    · rw [if_pos h]
      exact single n h hn
    · rw [if_neg h, List.head?_append_of_ne_nil _ Nat.toDigits_ne_nil]
      exact ih (n / 10) (by omega) (by omega)

end Text.Decimal

namespace Duration
open Text.Decimal

/-- What is left out of a fraction are zeros. -/
theorem fractionDigits_append (width n : Nat) :
    ∃ k, fractionDigits width n ++ List.replicate k '0' =
      List.replicate (width - (write n).length) '0' ++ write n := by
  let padded := List.replicate (width - (write n).length) '0' ++ write n
  have hz : padded.rtakeWhile (· == '0') =
      List.replicate (padded.rtakeWhile (· == '0')).length '0' := by
    refine List.eq_replicate_length.mpr fun c hc => ?_
    exact beq_iff_eq.mp (List.mem_rtakeWhile_imp (p := (· == '0')) hc)
  refine ⟨(padded.rtakeWhile (· == '0')).length, ?_⟩
  rw [← hz]
  exact List.rdropWhile_append_rtakeWhile

variable {width n : Nat}

theorem isDigit_of_mem_fractionDigits {c : Char} (h : c ∈ fractionDigits width n) :
    c.isDigit = true := by
  obtain ⟨k, hk⟩ := fractionDigits_append width n
  have hc : c ∈ fractionDigits width n ++ List.replicate k '0' := List.mem_append_left _ h
  rw [hk] at hc
  rcases List.mem_append.mp hc with hc | hc
  · rw [List.eq_of_mem_replicate hc]
    rfl
  · exact isDigit_of_mem_write hc

/-- As many zeros as were left out restore the number. -/
theorem ofDigitChars_fractionDigits (hw : n < 10 ^ width) (hn : 0 < n) :
    ∃ k, (fractionDigits width n).length + k = width ∧
      10 ^ k * Nat.ofDigitChars 10 (fractionDigits width n) 0 = n := by
  obtain ⟨k, hk⟩ := fractionDigits_append width n
  have hpos : 0 < width := by
    cases width with
    | zero => omega
    | succ width => exact Nat.succ_pos width
  have hlen : (write n).length ≤ width := (Nat.length_toDigits_le_iff (by decide) hpos).mpr hw
  refine ⟨k, ?_, ?_⟩
  · have := congrArg List.length hk
    simp only [List.length_append, List.length_replicate] at this
    omega
  · have hv := congrArg (Nat.ofDigitChars 10 · 0) hk
    simp only [Nat.ofDigitChars_append, Nat.ofDigitChars_replicate_zero, Nat.mul_zero] at hv
    rw [hv]
    exact Nat.ofDigitChars_ten_toDigits

theorem fractionDigits_ne_nil (hw : n < 10 ^ width) (hn : 0 < n) : fractionDigits width n ≠ [] := by
  obtain ⟨k, _, hk⟩ := ofDigitChars_fractionDigits hw hn
  intro h
  rw [h, Nat.ofDigitChars_nil, Nat.mul_zero] at hk
  omega

theorem getLast?_fractionDigits (width n : Nat) : (fractionDigits width n).getLast? ≠ some '0' := by
  intro h
  have hne : fractionDigits width n ≠ [] := by
    intro hn
    rw [hn] at h
    cases h
  rw [List.getLast?_eq_getLast_of_ne_nil hne] at h
  refine List.rdropWhile_last_not (· == '0') _ hne ?_
  exact beq_iff_eq.mpr (Option.some.inj h)

/-- A fraction has the value that its digits stand for. -/
theorem value_fractionDigits (hw : n < 10 ^ width) (hn : 0 < n) :
    (Nat.ofDigitChars 10 (fractionDigits width n) 0 : ℚ) / 10 ^ (fractionDigits width n).length =
      n / 10 ^ width := by
  obtain ⟨k, hlen, hk⟩ := ofDigitChars_fractionDigits hw hn
  generalize fractionDigits width n = fs at hlen hk ⊢
  rw [← hlen, ← hk, pow_add]
  push_cast
  field_simp

/-- Nothing is lost of a number and its fraction. -/
theorem decimalText_figure (whole : Nat) (hw : n < 10 ^ width) :
    Figure (decimalText whole width n) (whole + n / 10 ^ width) := by
  have hvalue : Nat.ofDigitChars 10 (write whole) 0 = whole := Nat.ofDigitChars_ten_toDigits
  unfold decimalText
  by_cases hn : n = 0
  · have h : Figure (write whole) (Nat.ofDigitChars 10 (write whole) 0) :=
      .whole Nat.toDigits_ne_nil fun c hc => isDigit_of_mem_write hc
    rw [if_pos hn, List.append_nil, hn, Nat.cast_zero, zero_div, add_zero]
    rwa [hvalue] at h
  · have hpos : 0 < n := Nat.pos_of_ne_zero hn
    rw [if_neg hn, ← value_fractionDigits hw hpos]
    conv in (whole : ℚ) => rw [← hvalue]
    exact .broken Nat.toDigits_ne_nil (fun c hc => isDigit_of_mem_write hc)
      (fractionDigits_ne_nil hw hpos) fun c hc => isDigit_of_mem_fractionDigits hc

theorem decimalText_concise {whole : Nat} (hpos : 0 < whole) (hw : n < 10 ^ width) :
    Concise (decimalText whole width n) := by
  have hne : write whole ≠ [] := Nat.toDigits_ne_nil
  have hfront : ∀ cs, (write whole ++ cs).head? ≠ some '0' := by
    intro cs
    rw [List.head?_append_of_ne_nil _ hne]
    exact head?_write_ne hpos
  refine ⟨hfront _, fun hp => ?_⟩
  unfold decimalText at hp ⊢
  by_cases hn : n = 0
  · rw [if_pos hn, List.append_nil] at hp
    exact nomatch isDigit_of_mem_write hp
  · have hne := fractionDigits_ne_nil hw (Nat.pos_of_ne_zero hn)
    rw [if_neg hn, List.getLast?_append_cons, List.getLast?_cons_of_ne_nil hne]
    exact getLast?_fractionDigits width n

end Duration

/-- What a length of time is counted in. -/
inductive TimeUnit where
  | nanosecond
  | microsecond
  | millisecond
  | second
  deriving DecidableEq

namespace TimeUnit

def symbol : TimeUnit → String
  | .nanosecond => "ns"
  | .microsecond => "µs"
  | .millisecond => "ms"
  | .second => "s"

/-- How many nanoseconds it lasts. -/
def nanos : TimeUnit → Nat
  | .nanosecond => 1
  | .microsecond => 1000
  | .millisecond => 1000000
  | .second => 1000000000

/-- How many places behind the point tell a nanosecond. -/
def places : TimeUnit → Nat
  | .nanosecond => 0
  | .microsecond => 3
  | .millisecond => 6
  | .second => 9

theorem nanos_eq (u : TimeUnit) : u.nanos = 10 ^ u.places := by cases u <;> rfl

theorem nanos_pos (u : TimeUnit) : 0 < u.nanos := by cases u <;> decide

/-- No figure goes on into the symbol behind it. -/
theorem symbol_eq_cons (u : TimeUnit) :
    ∃ c cs, u.symbol.toList = c :: cs ∧ c ≠ '.' ∧ c.isDigit = false := by
  cases u <;> exact ⟨_, _, rfl, by decide, by decide⟩

theorem symbol_inj {u v : TimeUnit} (h : u.symbol = v.symbol) : u = v := by
  revert h
  cases u <;> cases v <;> decide

end TimeUnit

namespace Duration
open Text.Decimal
variable {d d' : Duration} {text : String}

/-- The text is a figure with the symbol of the unit, and exact. -/
structure Counted (d : Duration) (text : String) (unit : TimeUnit) (figure : List Char) (q : ℚ) :
    Prop where
  spelled : text = String.ofList figure ++ unit.symbol
  valued : Figure figure q
  exact : q * unit.nanos = d.toNanos

/-- Besides, the figure is concise, and the unit is the largest one that is not longer. -/
structure Told (d : Duration) (text : String) (unit : TimeUnit) (figure : List Char) (q : ℚ) : Prop
    extends Counted d text unit figure q where
  concise : Concise figure
  low : 1 ≤ q
  high : unit ≠ .second → q < 1000
  reached : unit.nanos ≤ d.toNanos
  largest : ∀ v : TimeUnit, v.nanos ≤ d.toNanos → v.nanos ≤ unit.nanos

theorem toNanos_inj (h : d.toNanos = d'.toNanos) : d = d' := by
  obtain ⟨seconds, nanos, _, _⟩ := d
  obtain ⟨seconds', nanos', _, _⟩ := d'
  simp only [toNanos] at h
  simp only [mk.injEq]
  omega

theorem toNanos_pos (h : d ≠ zero) : 0 < d.toNanos := by
  refine Nat.pos_of_ne_zero fun hz => h (toNanos_inj ?_)
  rw [hz]
  rfl

/-- The text that a unit gives. -/
def textIn (d : Duration) (u : TimeUnit) : String :=
  String.ofList (decimalText (d.toNanos / u.nanos) u.places (d.toNanos % u.nanos)) ++ u.symbol

/-- The unit of a text: the length reaches it, if it is not zero, but not the one above. -/
theorem exists_textIn (d : Duration) : ∃ u : TimeUnit, d.text = d.textIn u ∧
    (d ≠ zero → u.nanos ≤ d.toNanos) ∧ (u ≠ .second → d.toNanos < 1000 * u.nanos) := by
  have hlt := d.nanos_lt
  have hn : d.toNanos = d.seconds * 1000000000 + d.nanos := rfl
  unfold text
  split
  · rename_i hs
    have hq : d.toNanos / 1000000000 = d.seconds := by omega
    have hr : d.toNanos % 1000000000 = d.nanos := by omega
    refine ⟨.second, ?_, fun _ => ?_, fun h => absurd rfl h⟩
    · simp only [textIn, TimeUnit.nanos, hq, hr]
      rfl
    · simp only [TimeUnit.nanos]
      omega
  · rename_i hs
    have hz : d.toNanos = d.nanos := by omega
    split
    · rename_i hm
      refine ⟨.millisecond, ?_, fun _ => ?_, fun _ => ?_⟩
      · simp only [textIn, TimeUnit.nanos, hz]
        rfl
      · exact hz ▸ hm
      · simp only [TimeUnit.nanos]
        omega
    · rename_i hm
      split
      · rename_i hu
        refine ⟨.microsecond, ?_, fun _ => ?_, fun _ => ?_⟩
        · simp only [textIn, TimeUnit.nanos, hz]
          rfl
        · exact hz ▸ hu
        · simp only [TimeUnit.nanos]
          omega
      · rename_i hu
        refine ⟨.nanosecond, ?_, toNanos_pos, fun _ => ?_⟩
        · simp only [textIn, TimeUnit.nanos, hz, Nat.div_one, Nat.mod_one]
          rfl
        · simp only [TimeUnit.nanos]
          omega

theorem counted_textIn (d : Duration) (u : TimeUnit) :
    d.Counted (d.textIn u) u (decimalText (d.toNanos / u.nanos) u.places (d.toNanos % u.nanos))
      (d.toNanos / u.nanos) := by
  have hu : (u.nanos : ℚ) ≠ 0 := Nat.cast_ne_zero.mpr u.nanos_pos.ne'
  have hmod : d.toNanos % u.nanos < 10 ^ u.places := u.nanos_eq ▸ Nat.mod_lt _ u.nanos_pos
  have hfigure := decimalText_figure (d.toNanos / u.nanos) hmod
  have hvalue : ((d.toNanos / u.nanos : ℕ) : ℚ) + (d.toNanos % u.nanos : ℕ) / 10 ^ u.places =
      d.toNanos / u.nanos := by
    have hsum : (u.nanos * (d.toNanos / u.nanos : ℕ) + (d.toNanos % u.nanos : ℕ) : ℚ) =
        d.toNanos := by
      exact_mod_cast Nat.div_add_mod d.toNanos u.nanos
    have hp : (10 ^ u.places : ℚ) = u.nanos := by
      rw [u.nanos_eq]
      push_cast
      rfl
    rw [hp, ← hsum]
    field_simp
  rw [hvalue] at hfigure
  exact ⟨rfl, hfigure, div_mul_cancel₀ _ hu⟩

/-- What is not a thousand of a unit is less than the next one. -/
theorem nanos_le_of_lt {n : Nat} {u v : TimeUnit} (hu : u ≠ .second → n < 1000 * u.nanos)
    (hv : v.nanos ≤ n) : v.nanos ≤ u.nanos := by
  cases u with
  | second => cases v <;> decide
  | nanosecond | microsecond | millisecond =>
    have hlt := Nat.lt_of_le_of_lt hv (hu (by decide))
    revert hlt
    cases v <;> decide

/-- A length that is not zero is told by its text. -/
theorem exists_told (h : d ≠ zero) : ∃ unit figure q, d.Told d.text unit figure q := by
  obtain ⟨u, ht, hle, hlt⟩ := d.exists_textIn
  have hu : (0 : ℚ) < u.nanos := Nat.cast_pos.mpr u.nanos_pos
  have hq : 0 < d.toNanos / u.nanos := Nat.div_pos (hle h) u.nanos_pos
  have hmod : d.toNanos % u.nanos < 10 ^ u.places := u.nanos_eq ▸ Nat.mod_lt _ u.nanos_pos
  refine ⟨u, _, _, ht ▸ d.counted_textIn u, decimalText_concise hq hmod, ?_, fun hs => ?_, hle h,
    fun v hv => nanos_le_of_lt hlt hv⟩
  · rw [le_div_iff₀ hu, one_mul]
    exact_mod_cast hle h
  · rw [div_lt_iff₀ hu]
    exact_mod_cast hlt hs

/-- The figure ends where the symbol begins. -/
theorem figure_append_inj {fs fs' : List Char} {q q' : ℚ} {u u' : TimeUnit} (h : Figure fs q)
    (h' : Figure fs' q') (he : fs ++ u.symbol.toList = fs' ++ u'.symbol.toList) :
    fs = fs' ∧ u = u' := by
  have split : ∀ {fs q} {u : TimeUnit}, Figure fs q →
      (fs ++ u.symbol.toList).takeWhile (fun c => c == '.' || c.isDigit) = fs := by
    intro fs q u h
    obtain ⟨c, cs, hs, hdot, hdigit⟩ := u.symbol_eq_cons
    have hfs : ∀ c ∈ fs, (c == '.' || c.isDigit) = true := by
      intro c hc
      rcases h.mem hc with rfl | hd
      · rfl
      · rw [hd, Bool.or_true]
    rw [hs, List.takeWhile_append_of_pos hfs, List.takeWhile_cons_of_neg (by simp [hdot, hdigit]),
      List.append_nil]
  have hfs : fs = fs' := by rw [← split h (u := u), he, split h']
  subst hfs
  exact ⟨rfl, TimeUnit.symbol_inj (String.toList_inj.mp (List.append_cancel_left he))⟩

/-- Since it is exact, a text counts one length at most. -/
theorem Counted.unique {unit unit' : TimeUnit} {figure figure' : List Char} {q q' : ℚ}
    (h : d.Counted text unit figure q) (h' : d'.Counted text unit' figure' q') : d = d' := by
  have he : figure ++ unit.symbol.toList = figure' ++ unit'.symbol.toList := by
    simpa using congrArg String.toList (h.spelled.symm.trans h'.spelled)
  obtain ⟨rfl, rfl⟩ := figure_append_inj h.valued h'.valued he
  have hq : q = q' := h.valued.unique h'.valued rfl
  refine toNanos_inj (Nat.cast_injective (R := ℚ) ?_)
  rw [← h.exact, ← h'.exact, hq]

theorem text_inj (h : d.text = d'.text) : d = d' := by
  obtain ⟨u, ht, _⟩ := d.exists_textIn
  obtain ⟨u', ht', _⟩ := d'.exists_textIn
  exact (ht ▸ d.counted_textIn u).unique (h ▸ ht' ▸ d'.counted_textIn u')

end Duration

namespace Switch
variable {σ η ε : Type}

/-- A wait that is told is told exactly: by a concise figure that counts the largest unit which the
wait reaches. Runs that tell the same wait have waited equally long, whatever else they did. -/
theorem waiting_exact (o : Opener σ η ε) (w : Switch) (s : σ) :
    ((∃ pause, waiting pause ∈ (w.run o s).records) ↔ Waits o w s) ∧
    ∀ pause, waiting pause ∈ (w.run o s).records →
      (∃ unit figure q, w.settle.Told pause unit figure q) ∧
      ∀ (σ' η' ε' : Type) (o' : Opener σ' η' ε') (w' : Switch) (s' : σ'),
        waiting pause ∈ (w'.run o' s').records → w'.settle = w.settle := by
  refine ⟨⟨?_, fun h => ⟨_, waiting_mem_records.mpr ⟨h, rfl⟩⟩⟩, ?_⟩
  · rintro ⟨pause, h⟩
    exact (waiting_mem_records.mp h).1
  · intro pause h
    obtain ⟨⟨hn, _⟩, rfl⟩ := waiting_mem_records.mp h
    refine ⟨Duration.exists_told hn, ?_⟩
    intro σ' η' ε' o' w' s' h'
    exact (Duration.text_inj (waiting_mem_records.mp h').2).symm

/-- A nanosecond above a millisecond. -/
theorem waiting_exact_fraction :
    let d : Duration := ⟨0, 1000001, by decide, by decide⟩
    let w : Switch := { port := "/dev/ttyACM0", target := Rate.defaultTarget, settle := d }
    let r := w.run (.recorder fun _ => none) {}
    waiting "1.000001ms" ∈ r.records ∧ (∃ unit figure q, d.Told "1.000001ms" unit figure q) ∧
      ∀ d', waiting "1.000001ms" ∈
        (run (.system fun _ => none) { w with settle := d' } {}).records → d' = d := by
  intro d w r
  have hw : Waits (.recorder fun _ => none) w {} := ⟨by decide, 0, rfl⟩
  have h : waiting "1.000001ms" ∈ r.records := waiting_mem_records.mpr ⟨hw, by decide⟩
  obtain ⟨htold, hsame⟩ := (waiting_exact (.recorder fun _ => none) w {}).2 "1.000001ms" h
  exact ⟨h, htold, fun d' h' => hsame _ _ _ _ _ _ h'⟩

end Switch
end MagicBaud

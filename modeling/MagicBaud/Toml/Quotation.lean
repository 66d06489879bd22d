import MagicBaud.Toml.Reader

namespace MagicBaud.Toml

def hexDigit? (c : Char) : Option Nat :=
  if '0' ≤ c ∧ c ≤ '9' then some (c.toNat - '0'.toNat)
  else if 'a' ≤ c ∧ c ≤ 'f' then some (c.toNat - 'a'.toNat + 10)
  else if 'A' ≤ c ∧ c ≤ 'F' then some (c.toNat - 'A'.toNat + 10)
  else none

/-- The character with the given number; there is none for surrogates. -/
def scalar? (n : Nat) : Option Char := if h : n.isValidChar then some (Char.ofNatAux n h) else none

/-- Reads the number of a character in exactly `count` hexadecimal digits. -/
def codePoint? (count : Nat) (cs : List Char) : Option (Char × List Char) := do
  let digits ← (cs.take count).mapM hexDigit?
  if digits.length = count then
    let c ← scalar? (digits.foldl (fun n d => n * 16 + d) 0)
    some (c, cs.drop count)
  else none

theorem codePoint_shorter {count : Nat} {cs rest : List Char} {c : Char}
    (h : codePoint? count cs = some (c, rest)) : rest.length ≤ cs.length := by
  simp only [codePoint?, Option.bind_eq_bind, Option.bind_eq_some_iff] at h
  obtain ⟨digits, _, h⟩ := h
  split at h
  · simp only [Option.bind_eq_some_iff, Option.some.injEq, Prod.mk.injEq] at h
    obtain ⟨_, _, _, rfl⟩ := h
    simp
  · simp at h

/-- Reads what follows a backslash. -/
def escaped? : List Char → Option (Char × List Char)
  | [] => none
  | c :: cs =>
    match c with
    | 'b' => some ('\x08', cs)
    | 't' => some ('\t', cs)
    | 'n' => some ('\n', cs)
    | 'f' => some ('\x0c', cs)
    | 'r' => some ('\r', cs)
    | '"' => some ('"', cs)
    | '\\' => some ('\\', cs)
    | 'u' => codePoint? 4 cs
    | 'U' => codePoint? 8 cs
    | _ => none

theorem escaped_shorter {cs rest : List Char} {c : Char} (h : escaped? cs = some (c, rest)) :
    rest.length < cs.length := by
  unfold escaped? at h
  split at h
  · simp at h
  · rename_i d tail
    have hle : rest.length ≤ tail.length := by
      split at h
      all_goals first
        | exact codePoint_shorter h
        | (simp only [Option.some.injEq, Prod.mk.injEq] at h; exact h.2 ▸ Nat.le_refl _)
        | simp at h
    exact Nat.lt_succ_of_le hle

/-- Whether backslashes are escapes between these marks. -/
def escapes (mark : Char) : Bool := mark == '"'

/-- The text up to the closing mark, on one line. -/
def shortBody (mark : Char) : List Char → Option (List Char × List Char)
  | [] => none
  | c :: cs =>
    if c = mark then some ([], cs)
    else if c = '\\' && escapes mark then
      match h : escaped? cs with
      | some (d, rest) =>
        have := escaped_shorter h
        (shortBody mark rest).map (fun (s, after) => (d :: s, after))
      | none => none
    else if isPlain c then (shortBody mark cs).map (fun (s, after) => (c :: s, after))
    else none
termination_by cs => cs.length

theorem shortBody_shorter {mark : Char} {cs s rest : List Char}
    (h : shortBody mark cs = some (s, rest)) : rest.length < cs.length := by
  fun_induction shortBody mark cs generalizing s rest <;> grind [Option.map_eq_some_iff]

/-- Skips blanks and line ends. -/
def skipBreaks (cs : List Char) : List Char :=
  match h : newline? (skipWhite cs) with
  | some rest =>
    have : rest.length < cs.length :=
      Nat.lt_of_lt_of_le (newline_shorter h) (length_skipWhite_le _)
    skipBreaks rest
  | none => skipWhite cs
termination_by cs.length

theorem length_skipBreaks_le (cs : List Char) : (skipBreaks cs).length ≤ cs.length := by
  fun_induction skipBreaks cs with
  | case1 cs rest h hlt ih => exact Nat.le_trans ih (Nat.le_of_lt hlt)
  | case2 cs h => exact length_skipWhite_le cs

/-- What follows a backslash at the end of a line: the line end and all blanks after it go. -/
def foldedLine? (cs : List Char) : Option (List Char) :=
  (newline? (skipWhite cs)).map skipBreaks

theorem foldedLine_shorter {cs rest : List Char} (h : foldedLine? cs = some rest) :
    rest.length < cs.length := by
  obtain ⟨after, hn, he⟩ := Option.map_eq_some_iff.mp h
  have h1 := newline_shorter hn
  have h2 := length_skipWhite_le cs
  have h3 := length_skipBreaks_le after
  rw [← he]
  omega

/-- The text up to three closing marks. One or two marks inside are text, and so are those of a
run that the closing three leave over. -/
def longBody (mark : Char) : List Char → Option (List Char × List Char)
  | [] => none
  | c :: cs =>
    if c = mark then
      let run := c :: cs.takeWhile (· == mark)
      have : (cs.dropWhile (· == mark)).length ≤ cs.length := (List.dropWhile_sublist _).length_le
      if run.length < 3 then
        (longBody mark (cs.dropWhile (· == mark))).map (fun (s, after) => (run ++ s, after))
      else if run.length ≤ 5 then some (run.drop 3, cs.dropWhile (· == mark))
      else none
    else if c = '\\' && escapes mark then
      match hf : foldedLine? cs with
      | some rest =>
        have := foldedLine_shorter hf
        longBody mark rest
      | none =>
        match h : escaped? cs with
        | some (d, rest) =>
          have := escaped_shorter h
          (longBody mark rest).map (fun (s, after) => (d :: s, after))
        | none => none
    else
      match hn : newline? (c :: cs) with
      | some rest =>
        have := newline_shorter hn
        (longBody mark rest).map (fun (s, after) => ('\n' :: s, after))
      | none =>
        if isPlain c then (longBody mark cs).map (fun (s, after) => (c :: s, after)) else none
termination_by cs => cs.length
decreasing_by all_goals simp only [List.length_cons] at *; omega

theorem longBody_shorter {mark : Char} {cs s rest : List Char}
    (h : longBody mark cs = some (s, rest)) : rest.length < cs.length := by
  fun_induction longBody mark cs generalizing s rest <;> grind [Option.map_eq_some_iff]

/-- A string on one line. -/
def shortString (mark : Char) : Reader (List Char) where
  read
    | [] => none
    | c :: cs => if c = mark then shortBody mark cs else none
  shrinks {cs rest s} h := by
    split at h
    · simp at h
    · split at h
      · exact Nat.lt_succ_of_lt (shortBody_shorter h)
      · simp at h

/-- A string of several lines. A line end right after the opening marks is not part of it. -/
def longString (mark : Char) : Reader (List Char) where
  read
    | a :: b :: c :: cs =>
      if a = mark ∧ b = mark ∧ c = mark then longBody mark ((newline? cs).getD cs) else none
    | _ => none
  shrinks {cs rest s} h := by
    split at h
    · rename_i a b c tail
      split at h
      · have hb := longBody_shorter h
        cases hn : newline? tail with
        | none =>
          rw [hn, Option.getD_none] at hb
          simp only [List.length_cons]
          omega
        | some after =>
          have := newline_shorter hn
          rw [hn, Option.getD_some] at hb
          simp only [List.length_cons]
          omega
      · simp at h
    · simp at h

/-- A string in any of the four quotations. -/
def string : Reader (List Char) :=
  (longString '"').orElse <| (shortString '"').orElse <|
    (longString '\'').orElse (shortString '\'')

end MagicBaud.Toml

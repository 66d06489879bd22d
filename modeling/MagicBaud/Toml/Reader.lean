namespace MagicBaud.Toml

/-- Takes a value off the front of a text and leaves a shorter rest. -/
structure Reader (α : Type) where
  read : List Char → Option (α × List Char)
  shrinks : ∀ {cs rest : List Char} {a : α}, read cs = some (a, rest) → rest.length < cs.length

namespace Reader
variable {α β : Type}

def map (f : α → β) (r : Reader α) : Reader β where
  read cs := (r.read cs).map (fun (a, rest) => (f a, rest))
  shrinks {cs rest b} h := by
    obtain ⟨⟨a, rest'⟩, hr, he⟩ := Option.map_eq_some_iff.mp h
    simp only [Prod.mk.injEq] at he
    exact he.2 ▸ r.shrinks hr

/-- Keeps only the values that `f` accepts. -/
def mapSome (f : α → Option β) (r : Reader α) : Reader β where
  read cs := (r.read cs).bind (fun (a, rest) => (f a).map (·, rest))
  shrinks {cs rest b} h := by
    obtain ⟨⟨a, rest'⟩, hr, hf⟩ := Option.bind_eq_some_iff.mp h
    obtain ⟨b', _, he⟩ := Option.map_eq_some_iff.mp hf
    simp only [Prod.mk.injEq] at he
    exact he.2 ▸ r.shrinks hr

/-- The second reader is tried where the first takes nothing. -/
def orElse (first second : Reader α) : Reader α where
  read cs := (first.read cs).or (second.read cs)
  shrinks {cs rest a} h := by
    cases hf : first.read cs with
    | none =>
      rw [hf, Option.none_or] at h
      exact second.shrinks h
    | some found =>
      rw [hf, Option.some_or] at h
      exact first.shrinks (hf.trans h)

end Reader

def isWhite (c : Char) : Bool := c == ' ' || c == '\t'

/-- What may stand in a comment: all but control characters, with the tab allowed. -/
def isPlain (c : Char) : Bool := c == '\t' || (0x20 ≤ c.toNat && c.toNat != 0x7F)

def skipWhite (cs : List Char) : List Char := cs.dropWhile isWhite

theorem length_skipWhite_le (cs : List Char) : (skipWhite cs).length ≤ cs.length :=
  (List.dropWhile_sublist isWhite).length_le

theorem length_after_skipWhite {cs rest : List Char} {c : Char}
    (h : skipWhite cs = c :: rest) : (c :: rest).length ≤ cs.length :=
  h ▸ length_skipWhite_le cs

/-- What follows a comment, if one begins here. -/
def skipComment : List Char → List Char
  | '#' :: cs => cs.dropWhile isPlain
  | cs => cs

theorem length_skipComment_le (cs : List Char) : (skipComment cs).length ≤ cs.length := by
  unfold skipComment
  split
  · exact Nat.le_succ_of_le (List.dropWhile_sublist isPlain).length_le
  · exact Nat.le_refl _

/-- What follows a line feed, alone or after a carriage return. -/
def newline? : List Char → Option (List Char)
  | '\n' :: cs => some cs
  | '\r' :: '\n' :: cs => some cs
  | _ => none

theorem newline_shorter {cs rest : List Char} (h : newline? cs = some rest) :
    rest.length < cs.length := by
  unfold newline? at h
  split at h
  · simp only [Option.some.injEq] at h
    subst h
    exact Nat.lt_succ_self _
  · simp only [Option.some.injEq] at h
    subst h
    simp only [List.length_cons]
    omega
  · simp at h

/-- Ends a line: blanks, perhaps a comment, then a line feed or the end of the text. -/
def lineEnd? (cs : List Char) : Option (List Char) :=
  match skipComment (skipWhite cs) with
  | [] => some []
  | c :: rest => newline? (c :: rest)

theorem lineEnd_le {cs rest : List Char} (h : lineEnd? cs = some rest) :
    rest.length ≤ cs.length := by
  have hle := Nat.le_trans (length_skipComment_le (skipWhite cs)) (length_skipWhite_le cs)
  unfold lineEnd? at h
  split at h
  · simp only [Option.some.injEq] at h
    subst rest
    exact Nat.zero_le _
  · rename_i c tail he
    have := newline_shorter h
    rw [he] at hle
    omega

theorem lineEnd_shorter {cs rest : List Char} (h : lineEnd? cs = some rest) (hc : cs ≠ []) :
    rest.length < cs.length := by
  have hle := Nat.le_trans (length_skipComment_le (skipWhite cs)) (length_skipWhite_le cs)
  unfold lineEnd? at h
  split at h
  · simp only [Option.some.injEq] at h
    subst rest
    exact List.length_pos_iff.mpr hc
  · rename_i c tail he
    have := newline_shorter h
    rw [he] at hle
    omega

/-- Skips blanks, line ends and comments with their line ends. -/
def skipTrivia (cs : List Char) : List Char :=
  match h : newline? (skipComment (skipWhite cs)) with
  | some rest =>
    have : rest.length < cs.length :=
      Nat.lt_of_lt_of_le (newline_shorter h)
        (Nat.le_trans (length_skipComment_le _) (length_skipWhite_le _))
    skipTrivia rest
  | none => skipComment (skipWhite cs)
termination_by cs.length

theorem length_skipTrivia_le (cs : List Char) : (skipTrivia cs).length ≤ cs.length := by
  fun_induction skipTrivia cs with
  | case1 cs rest h hlt ih => exact Nat.le_trans ih (Nat.le_of_lt hlt)
  | case2 cs h => exact Nat.le_trans (length_skipComment_le _) (length_skipWhite_le _)

end MagicBaud.Toml

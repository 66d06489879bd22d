import MagicBaud.Toml.Value

namespace MagicBaud.Toml

/-- The characters of which unquoted values are made. -/
def isWordChar (c : Char) : Bool :=
  c.isAlphanum || c == '+' || c == '-' || c == '_' || c == '.' || c == ':'

/-- The longest word at the front, perhaps an empty one. -/
def word (cs : List Char) : List Char × List Char :=
  (cs.takeWhile isWordChar, cs.dropWhile isWordChar)

def wordValue? (w : List Char) : Option Value :=
  if w = "true".toList then some (.boolean true)
  else if w = "false".toList then some (.boolean false)
  else
    match moment? w with
    | some m => some (.moment m)
    | none =>
      match integer? w with
      | some n => some (.integer n)
      | none => (real? w).map .real

/-- A word, or two with a blank between them if they are a date and a time of day. -/
def readWord (cs : List Char) : Option (Value × List Char) :=
  let (w, rest) := word cs
  let single := if w.isEmpty then none else (wordValue? w).map (·, rest)
  match date? w, rest with
  | some date, ' ' :: cs' =>
    let (w', rest') := word cs'
    match timeOn? date w' with
    | some m => some (.moment m, rest')
    | none => single
  | _, _ => single

theorem length_word_le (cs : List Char) : (word cs).2.length ≤ cs.length :=
  (List.dropWhile_sublist isWordChar).length_le

theorem word_shorter {cs : List Char} (h : (word cs).1 ≠ []) :
    (word cs).2.length < cs.length := by
  cases cs with
  | nil => simp [word] at h
  | cons c cs =>
    by_cases hc : isWordChar c = true
    · have := length_word_le cs
      simp only [word] at this
      simp only [word, List.dropWhile_cons_of_pos hc, List.length_cons]
      omega
    · simp [word, hc] at h

theorem readWord_shorter {cs rest : List Char} {v : Value} (h : readWord cs = some (v, rest)) :
    rest.length < cs.length := by
  have single : ∀ {v' : Value} {rest' : List Char},
      (if (word cs).1.isEmpty then none else (wordValue? (word cs).1).map (·, (word cs).2)) =
        some (v', rest') → rest'.length < cs.length := by
    intro v' rest' hs
    split at hs
    · simp at hs
    · rename_i hw
      obtain ⟨_, _, he⟩ := Option.map_eq_some_iff.mp hs
      simp only [Prod.mk.injEq] at he
      exact he.2 ▸ word_shorter (by simpa using hw)
  unfold readWord at h
  simp only at h
  split at h
  · rename_i date cs' hd hrest
    split at h
    · simp only [Option.some.injEq, Prod.mk.injEq] at h
      have h1 := length_word_le cs'
      have h2 := length_word_le cs
      simp only [hrest, List.length_cons] at h2
      rw [← h.2]
      omega
    · exact single h
  · exact single h

def bareValue : Reader Value := ⟨readWord, readWord_shorter⟩

def scalar : Reader Value :=
  (string.map (fun s => .text (String.ofList s))).orElse bareValue

end MagicBaud.Toml

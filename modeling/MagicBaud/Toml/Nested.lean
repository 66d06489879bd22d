import MagicBaud.Toml.Key
import MagicBaud.Toml.Scalar

namespace MagicBaud.Toml
variable {α : Type}

/-- The items of an array up to the closing bracket; a comma may follow the last one. -/
def arrayItems (item : Reader α) (cs : List Char) : Option (List α × List Char) :=
  match hs : skipTrivia cs with
  | ']' :: rest => some ([], rest)
  | start =>
    match h : item.read start with
    | none => none
    | some (a, rest) =>
      match ht : skipTrivia rest with
      | ',' :: after =>
        have : after.length < cs.length := by
          have h1 := length_skipTrivia_le cs
          rw [hs] at h1
          have h2 := item.shrinks h
          have h3 := length_skipTrivia_le rest
          simp only [ht, List.length_cons] at h3
          omega
        (arrayItems item after).map (fun (as, end') => (a :: as, end'))
      | ']' :: after => some ([a], after)
      | _ => none
termination_by cs.length

theorem arrayItems_shorter {item : Reader α} {cs rest : List Char} {as : List α}
    (h : arrayItems item cs = some (as, rest)) : rest.length < cs.length := by
  have taken : ∀ {cs after : List Char} {a : α},
      item.read (skipTrivia cs) = some (a, after) → (skipTrivia after).length < cs.length := by
    intro cs after a h
    exact Nat.lt_of_le_of_lt (length_skipTrivia_le after)
      (Nat.lt_of_lt_of_le (item.shrinks h) (length_skipTrivia_le cs))
  fun_induction arrayItems item cs generalizing as rest <;>
    grind [Option.map_eq_some_iff, length_skipTrivia_le]

def array (item : Reader α) : Reader (List α) where
  read
    | '[' :: cs => arrayItems item cs
    | _ => none
  shrinks {cs rest as} h := by
    split at h
    · exact Nat.lt_succ_of_lt (arrayItems_shorter h)
    · simp at h

/-- A value under a key, on one line up to the value. -/
def entry (item : Reader Value) : Reader (KeyPath × Value) where
  read cs :=
    match keyPath.read cs with
    | some (path, '=' :: rest) =>
      (item.read (skipWhite rest)).map (fun (v, after) => ((path, v), after))
    | _ => none
  shrinks {cs rest pair} h := by
    split at h
    · rename_i path after hk
      obtain ⟨⟨v, end'⟩, hv, he⟩ := Option.map_eq_some_iff.mp h
      simp only [Prod.mk.injEq] at he
      have h1 := keyPath.shrinks hk
      have h2 := item.shrinks hv
      have h3 := length_skipWhite_le after
      simp only [List.length_cons] at h1
      rw [← he.2]
      omega
    · simp at h

/-- Pairs up to the closing brace, at least one. -/
def inlinePairs (pair : Reader α) (cs : List Char) : Option (List α × List Char) :=
  match h : pair.read cs with
  | none => none
  | some (a, rest) =>
    match ht : skipWhite rest with
    | ',' :: after =>
      have : after.length < cs.length := by
        have h1 := pair.shrinks h
        have h2 := length_skipWhite_le rest
        simp only [ht, List.length_cons] at h2
        omega
      (inlinePairs pair after).map (fun (as, end') => (a :: as, end'))
    | '}' :: after => some ([a], after)
    | _ => none
termination_by cs.length

theorem inlinePairs_shorter {pair : Reader α} {cs rest : List Char} {as : List α}
    (h : inlinePairs pair cs = some (as, rest)) : rest.length < cs.length := by
  have taken : ∀ {cs after : List Char} {a : α},
      pair.read cs = some (a, after) → (skipWhite after).length < cs.length := by
    intro cs after a h
    exact Nat.lt_of_le_of_lt (length_skipWhite_le after) (pair.shrinks h)
  fun_induction inlinePairs pair cs generalizing as rest <;> grind [Option.map_eq_some_iff]

/-- The pairs between two braces. -/
def inlineTable (pair : Reader α) : Reader (List α) where
  read
    | '{' :: cs =>
      match skipWhite cs with
      | '}' :: rest => some ([], rest)
      | _ => inlinePairs pair cs
    | _ => none
  shrinks {cs rest as} h := by
    split at h
    · rename_i tail
      split at h
      · rename_i after hs
        have := length_skipWhite_le tail
        simp only [hs, List.length_cons, Option.some.injEq, Prod.mk.injEq] at this h
        rw [← h.2, List.length_cons]
        omega
      · exact Nat.lt_succ_of_lt (inlinePairs_shorter h)
    · simp at h

/-- A value with at most the given number of levels of brackets and braces. -/
def valueWithin : Nat → Reader Value
  | 0 => scalar
  | levels + 1 =>
    let item := valueWithin levels
    scalar.orElse <| ((array item).map .array).orElse <|
      (inlineTable (entry item)).mapSome fun pairs =>
        (Entries.putAll pairs []).map (.table .inline)

def value : Reader Value := valueWithin (depthLimit - 1)

end MagicBaud.Toml

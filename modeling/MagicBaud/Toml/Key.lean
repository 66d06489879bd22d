import MagicBaud.Toml.Quotation
import MagicBaud.Toml.Table

namespace MagicBaud.Toml

def isBare (c : Char) : Bool := c.isAlphanum || c == '-' || c == '_'

def bareKey : Reader (List Char) where
  read cs :=
    let key := cs.takeWhile isBare
    if key.isEmpty then none else some (key, cs.dropWhile isBare)
  shrinks {cs rest key} h := by
    cases cs with
    | nil => simp at h
    | cons c cs =>
      by_cases hc : isBare c = true
      · simp only [List.takeWhile_cons_of_pos hc, List.dropWhile_cons_of_pos hc, List.isEmpty_cons,
          Bool.false_eq_true, ↓reduceIte, Option.some.injEq, Prod.mk.injEq] at h
        rw [← h.2, List.length_cons]
        exact Nat.lt_succ_of_le (List.dropWhile_sublist isBare).length_le
      · simp [hc] at h

def simpleKey : Reader String :=
  ((shortString '"').orElse <| (shortString '\'').orElse bareKey).map String.ofList

/-- The parts of a dotted key, with blanks around each of them. -/
def keyParts (cs : List Char) : Option (List String × List Char) :=
  match h : simpleKey.read (skipWhite cs) with
  | none => none
  | some (k, rest) =>
    match hr : skipWhite rest with
    | '.' :: rest' =>
      have : rest'.length < cs.length := by
        have h1 := simpleKey.shrinks h
        have h2 := length_skipWhite_le cs
        have h3 := length_skipWhite_le rest
        simp only [hr, List.length_cons] at h3
        omega
      (keyParts rest').map (fun (ks, after) => (k :: ks, after))
    | after => some ([k], after)
termination_by cs.length

theorem keyParts_shorter {cs rest : List Char} {ks : List String}
    (h : keyParts cs = some (ks, rest)) : rest.length < cs.length := by
  fun_induction keyParts cs generalizing ks rest with
  | case1 => simp at h
  | case2 cs k rest₁ hk rest₂ hr hlt ih =>
    obtain ⟨⟨ks', after⟩, hs, he⟩ := Option.map_eq_some_iff.mp h
    simp only [Prod.mk.injEq] at he
    have := ih hs
    rw [← he.2]
    omega
  | case3 cs k rest₁ hk hr =>
    simp only [Option.some.injEq, Prod.mk.injEq] at h
    have h1 := simpleKey.shrinks hk
    have h2 := length_skipWhite_le cs
    have h3 := length_skipWhite_le rest₁
    rw [← h.2]
    omega

/-- Neither a key nor a value goes this many levels deep. -/
def depthLimit : Nat := 80

def KeyPath.ofParts? (ks : List String) : Option KeyPath :=
  if ks.length < depthLimit then ks.getLast?.map (⟨ks.dropLast, ·⟩) else none

def keyPath : Reader KeyPath := Reader.mapSome KeyPath.ofParts? ⟨keyParts, keyParts_shorter⟩

end MagicBaud.Toml

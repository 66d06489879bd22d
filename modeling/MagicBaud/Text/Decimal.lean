namespace MagicBaud.Text

/-- Why a text is no number below the limit. -/
inductive NumberFault where
  | empty
  | badDigit
  | tooLarge
  deriving DecidableEq, Repr

def NumberFault.message : NumberFault → String
  | .empty => "cannot parse integer from empty string"
  | .badDigit => "invalid digit found in string"
  | .tooLarge => "number too large to fit in target type"

namespace Decimal

/-- The value of an ASCII digit. -/
def digit? (c : Char) : Option Nat :=
  if '0' ≤ c ∧ c ≤ '9' then some (c.toNat - '0'.toNat) else none

def write (n : Nat) : List Char := Nat.toDigits 10 n

/-- Reads digits from the left. The first character that is no digit, or that takes the value
to the limit, decides the fault; at one place a wrong digit wins. -/
def readFrom (limit : Nat) (sum : Nat) : List Char → Except NumberFault Nat
  | [] => .ok sum
  | c :: cs =>
    match digit? c with
    | none => .error .badDigit
    | some d =>
      if sum * 10 + d < limit then readFrom limit (sum * 10 + d) cs else .error .tooLarge

/-- Reads a number below `limit`: at most one plus sign, then digits, leading zeros allowed. -/
def read (limit : Nat) : List Char → Except NumberFault Nat
  | [] => .error .empty
  | '+' :: [] => .error .badDigit
  | '+' :: c :: cs => readFrom limit 0 (c :: cs)
  | c :: cs => readFrom limit 0 (c :: cs)

theorem readFrom_lt {limit sum n : Nat} {cs : List Char} (hs : sum < limit ∨ cs ≠ [])
    (h : readFrom limit sum cs = .ok n) : n < limit := by
  induction cs generalizing sum with
  | nil =>
    simp only [readFrom, Except.ok.injEq] at h
    subst h
    simpa using hs
  | cons c cs ih =>
    simp only [readFrom] at h
    split at h
    · simp at h
    · split at h
      · rename_i hlt
        exact ih (.inl hlt) h
      · simp at h

theorem read_lt {limit n : Nat} {cs : List Char} (h : read limit cs = .ok n) : n < limit := by
  unfold read at h
  split at h
  · simp at h
  · simp at h
  · exact readFrom_lt (.inr (by simp)) h
  · exact readFrom_lt (.inr (by simp)) h

end Decimal
end MagicBaud.Text

import MagicBaud.Toml.Nested

namespace MagicBaud.Toml

/-- What a line says: a value under a key, or that a table begins. -/
inductive Item where
  | pair (path : KeyPath) (v : Value)
  | table (path : KeyPath)
  | oneOf (path : KeyPath)

/-- A header in single brackets opens a table, one in double brackets one of several. -/
def readHeader (cs : List Char) : Option (Item × List Char) :=
  match cs with
  | '[' :: '[' :: rest =>
    match keyPath.read rest with
    | some (path, ']' :: ']' :: after) => some (.oneOf path, after)
    | _ => none
  | '[' :: rest =>
    match keyPath.read rest with
    | some (path, ']' :: after) => some (.table path, after)
    | _ => none
  | _ => none

theorem readHeader_shorter {cs rest : List Char} {i : Item} (h : readHeader cs = some (i, rest)) :
    rest.length < cs.length := by
  unfold readHeader at h
  split at h
  · split at h
    · rename_i path after hk
      have := keyPath.shrinks hk
      simp only [Option.some.injEq, Prod.mk.injEq, List.length_cons] at *
      rw [← h.2]
      omega
    · simp at h
  · split at h
    · rename_i path after hk
      have := keyPath.shrinks hk
      simp only [Option.some.injEq, Prod.mk.injEq, List.length_cons] at *
      rw [← h.2]
      omega
    · simp at h
  · simp at h

def header : Reader Item := ⟨readHeader, readHeader_shorter⟩

def item : Reader Item := header.orElse ((entry value).map (fun (path, v) => .pair path v))

/-- Reads line after line. A line may be empty or hold no more than a comment. -/
def items (cs : List Char) : Option (List Item) :=
  match hs : skipWhite cs with
  | [] => some []
  | c :: start =>
    have hle := length_after_skipWhite hs
    match he : lineEnd? (c :: start) with
    | some rest =>
      have : rest.length < cs.length :=
        Nat.lt_of_lt_of_le (lineEnd_shorter he (List.cons_ne_nil c start)) hle
      items rest
    | none =>
      match hi : item.read (c :: start) with
      | none => none
      | some (i, after) =>
        match hl : lineEnd? after with
        | none => none
        | some rest =>
          have : rest.length < cs.length :=
            Nat.lt_of_le_of_lt (lineEnd_le hl) (Nat.lt_of_lt_of_le (item.shrinks hi) hle)
          (items rest).map (i :: ·)
termination_by cs.length

/-- The pairs up to the next header, and the rest. -/
def pairsBefore : List Item → List (KeyPath × Value) × List Item
  | .pair path v :: is =>
    let (pairs, rest) := pairsBefore is
    ((path, v) :: pairs, rest)
  | is => ([], is)

theorem length_pairsBefore_le (is : List Item) : (pairsBefore is).2.length ≤ is.length := by
  fun_induction pairsBefore is <;> grind

/-- Enters the tables in turn, each with the pairs below its header. -/
def addSections (es : Entries) : List Item → Option Entries
  | [] => some es
  | .pair .. :: _ => none
  | .table path :: is =>
    have := length_pairsBefore_le is
    (Entries.openTable path (pairsBefore is).1 es).bind (addSections · (pairsBefore is).2)
  | .oneOf path :: is =>
    have := length_pairsBefore_le is
    (Entries.addTable path (pairsBefore is).1 es).bind (addSections · (pairsBefore is).2)
termination_by is => is.length
decreasing_by all_goals simp only [List.length_cons]; omega

/-- The entries at the top of the document that the items make up. -/
def assemble (is : List Item) : Option Entries :=
  (Entries.putAll (pairsBefore is).1 []).bind (addSections · (pairsBefore is).2)

/-- A mark of the byte order at the front is no part of the text. -/
def withoutMark : List Char → List Char
  | '\ufeff' :: cs => cs
  | cs => cs

/-- The entries at the top of the document, in its order; none if the text is no document. -/
def document? (s : String) : Option Entries := (items (withoutMark s.toList)).bind assemble

end MagicBaud.Toml

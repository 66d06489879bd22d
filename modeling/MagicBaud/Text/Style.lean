namespace MagicBaud.Text

def escape : Char := '\x1b'

/-- Ends every style. -/
def reset : List Char := [escape, '[', '0', 'm']

/-- A style by its opening sequence. -/
structure Style where
  opening : List Char

namespace Style

def ofCodes (codes : String) : Style := ⟨escape :: '[' :: codes.toList ++ ['m']⟩

def bold : Style := ofCodes "1"
def yellow : Style := ofCodes "33"
def dimmed : Style := ofCodes "2"
def boldGreen : Style := ofCodes "1;32"
def boldCyan : Style := ofCodes "1;36"
def boldWhite : Style := ofCodes "1;37"

/-- Opens the style again wherever the text itself ends all styles. -/
def reopen (opening : List Char) : List Char → List Char
  | '\x1b' :: '[' :: '0' :: 'm' :: cs => reset ++ opening ++ reopen opening cs
  | c :: cs => c :: reopen opening cs
  | [] => []

/-- The text in this style, or as it is when colours are off. -/
def paint (style : Style) (colour : Bool) (text : String) : String :=
  if colour then String.ofList (style.opening ++ reopen style.opening text.toList ++ reset)
  else text

end Style

/-- What follows the digits and semicolons of a style sequence and its final `m`. -/
def afterCodes : List Char → Option (List Char)
  | [] => none
  | c :: cs => if c = 'm' then some cs else if c.isDigit || c = ';' then afterCodes cs else none

theorem afterCodes_shorter {cs rest : List Char} (h : afterCodes cs = some rest) :
    rest.length < cs.length := by
  induction cs with
  | nil => simp [afterCodes] at h
  | cons c cs ih =>
    simp only [afterCodes] at h
    split at h
    · simp only [Option.some.injEq] at h
      simp [h]
    · split at h
      · have := ih h
        simp only [List.length_cons]
        omega
      · simp at h

/-- Drops every style sequence, in one pass from the left. -/
def stripStyles : List Char → List Char
  | '\x1b' :: '[' :: cs =>
    match h : afterCodes cs with
    | some rest =>
      have := afterCodes_shorter h
      stripStyles rest
    | none => '\x1b' :: stripStyles ('[' :: cs)
  | c :: cs => c :: stripStyles cs
  | [] => []
termination_by cs => cs.length
decreasing_by all_goals simp_all <;> omega

end MagicBaud.Text

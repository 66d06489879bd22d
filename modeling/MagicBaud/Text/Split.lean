namespace MagicBaud.Text

/-- The parts between the separators; one part more than there are separators. -/
def split (separator : Char) : List Char → List (List Char)
  | [] => [[]]
  | c :: cs =>
    if c = separator then [] :: split separator cs
    else
      match split separator cs with
      | part :: parts => (c :: part) :: parts
      | [] => [[c]]

/-- What stands before the first separator, and what after it if there is one. -/
def cut (separator : Char) : List Char → List Char × Option (List Char)
  | [] => ([], none)
  | c :: cs =>
    if c = separator then ([], some cs)
    else
      let (before, after) := cut separator cs
      (c :: before, after)

def lines (s : String) : List String := (split '\n' s.toList).map String.ofList

/-- A line without a carriage return at its end. -/
def withoutReturn (line : String) : String :=
  match line.toList.reverse with
  | '\r' :: cs => String.ofList cs.reverse
  | _ => line

/-- The lines of a text that is read line by line. A carriage return before a line feed belongs to
the end of the line, and behind the last end there is no line. -/
def endedLines (s : String) : List String :=
  (lines s).dropLast.map withoutReturn ++ (lines s).getLast?.toList.filter (· ≠ "")

def firstLine (s : String) : String := (endedLines s).headD ""

end MagicBaud.Text

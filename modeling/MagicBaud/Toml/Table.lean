import MagicBaud.Toml.Value

namespace MagicBaud.Toml

/-- A key with the keys that lead to its table. -/
structure KeyPath where
  parents : List String
  key : String
  deriving DecidableEq

namespace Entries

def get? (key : String) : Entries → Option Value
  | [] => none
  | (k, v) :: es => if k = key then some v else get? key es

/-- Puts a value in the place of the one that the key has. -/
def replace (key : String) (v : Value) : Entries → Entries
  | [] => []
  | (k, w) :: es => if k = key then (k, v) :: es else (k, w) :: replace key v es

def remove (key : String) : Entries → Entries
  | [] => []
  | (k, v) :: es => if k = key then es else (k, v) :: remove key es

/-- Gives a new key its value, after the others. -/
def append (key : String) (v : Value) (es : Entries) : Entries := es ++ [(key, v)]

/-- Changes the last of several tables. -/
def updateLast (f : Entries → Option Entries) : List Entries → Option (List Entries)
  | [] => none
  | [es] => (f es).map ([·])
  | es :: rest => (updateLast f rest).map (es :: ·)

/-- Enters a value under a dotted key. The table that holds it in the end has to be one that
dotted keys made, on the way there implied tables and the last of several tables may lie. -/
def put (key : String) (v : Value) : List String → Entries → Option Entries
  | [], es => if (get? key es).isSome then none else some (append key v es)
  | p :: ps, es =>
    match get? p es with
    | none => (put key v ps []).map (fun sub => append p (.table .dotted sub) es)
    | some (.table .dotted sub) =>
      (put key v ps sub).map (fun sub' => replace p (.table .dotted sub') es)
    | some (.table .implied sub) =>
      if ps.isEmpty then none
      else (put key v ps sub).map (fun sub' => replace p (.table .implied sub') es)
    | some (.tables elements) =>
      if ps.isEmpty then none
      else (updateLast (put key v ps) elements).map (fun ts => replace p (.tables ts) es)
    | some _ => none

/-- Enters all pairs in turn. -/
def putAll (pairs : List (KeyPath × Value)) (es : Entries) : Option Entries :=
  pairs.foldlM (fun es (path, v) => put path.key v path.parents es) es

/-- Changes the table that a header's parents lead to. Missing tables on the way are implied. -/
def descend (change : Entries → Option Entries) : List String → Entries → Option Entries
  | [], es => change es
  | p :: ps, es =>
    match get? p es with
    | none => (descend change ps []).map (fun sub => append p (.table .implied sub) es)
    | some (.table .inline _) => none
    | some (.table origin sub) =>
      (descend change ps sub).map (fun sub' => replace p (.table origin sub') es)
    | some (.tables elements) =>
      (updateLast (descend change ps) elements).map (fun ts => replace p (.tables ts) es)
    | some _ => none

/-- Opens a table and fills it. One that was implied so far moves to the end. -/
def openTable (path : KeyPath) (pairs : List (KeyPath × Value)) (es : Entries) : Option Entries :=
  descend (fun parent =>
    match get? path.key parent with
    | none => (putAll pairs []).map (fun t => append path.key (.table .header t) parent)
    | some (.table .implied sub) =>
      (putAll pairs sub).map fun t =>
        append path.key (.table .header t) (remove path.key parent)
    | some _ => none) path.parents es

/-- Adds one more table under a key that stands for several. -/
def addTable (path : KeyPath) (pairs : List (KeyPath × Value)) (es : Entries) : Option Entries :=
  descend (fun parent =>
    match get? path.key parent with
    | none => (putAll pairs []).map (fun t => append path.key (.tables [t]) parent)
    | some (.tables elements) =>
      (putAll pairs []).map fun t => replace path.key (.tables (elements ++ [t])) parent
    | some _ => none) path.parents es

end Entries
end MagicBaud.Toml

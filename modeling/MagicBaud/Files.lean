import MagicBaud.Text.Split

namespace MagicBaud

/-- Why a path yields no text. -/
inductive ReadError where
  | notFound
  | isDirectory
  | notDirectory
  | nameTooLong
  | denied
  | failed
  | notText
  | noPath
  deriving DecidableEq, Repr

def ReadError.message : ReadError → String
  | .notFound => "No such file or directory (os error 2)"
  | .isDirectory => "Is a directory (os error 21)"
  | .notDirectory => "Not a directory (os error 20)"
  | .nameTooLong => "File name too long (os error 36)"
  | .denied => "Permission denied (os error 13)"
  | .failed => "Input/output error (os error 5)"
  | .notText => "stream did not contain valid UTF-8"
  | .noPath => "file name contained an unexpected NUL byte"

/-- What reading each path gives. -/
abbrev Files := String → Except ReadError String

inductive Content where
  | text (s : String)
  | bytes (b : ByteArray)
  | folder

def Content.read : Content → Except ReadError String
  | .text s => .ok s
  | .bytes b =>
    match String.fromUTF8? b with
    | some s => .ok s
    | none => .error .notText
  | .folder => .error .isDirectory

/-- A working directory: contents by the names that lead to them. -/
structure Directory where
  entries : List (List String × Content)

/-- A place on the way along a path: in the directory, at a path from the root, or somewhere above
the directory, where nothing is known but that it is a folder. -/
inductive Place where
  | inside (names : List String)
  | rooted (names : List String)
  | above

namespace Place

def parent : Place → Place
  | .inside [] | .above => .above
  | .inside names => .inside names.dropLast
  | .rooted names => .rooted names.dropLast

/-- The place that a name leads to, unless nothing can be known of it. -/
def child? (name : String) : Place → Option Place
  | .inside names => some (.inside (names ++ [name]))
  | .rooted names => some (.rooted (names ++ [name]))
  | .above => none

end Place

/-- The folders that the root always has. -/
def rootFolders : List String :=
  ["bin", "boot", "dev", "etc", "home", "lib", "media", "mnt", "opt", "proc", "root", "run", "sbin",
    "srv", "sys", "tmp", "usr", "var"]

/-- What always lies at a path from the root. The null device reads as no text. -/
def standing? : List String → Option Content
  | [] => some .folder
  | [name] => if rootFolders.contains name then some .folder else none
  | names => if names = ["dev", "null"] then some (.text "") else none

namespace Directory

def parts (path : String) : List String := (Text.split '/' path.toList).map String.ofList

def ofFiles (files : List (String × Content)) : Directory :=
  ⟨files.map (fun (name, content) => (parts name, content))⟩

/-- What lies at a place. A name that leads on to an entry is a folder. -/
def content? (d : Directory) : Place → Option Content
  | .above => some .folder
  | .rooted names => standing? names
  | .inside [] => some .folder
  | .inside names =>
    match d.entries.find? (·.1 == names) with
    | some (_, content) => some content
    | none => if d.entries.any (fun e => names.isPrefixOf e.1) then some .folder else none

def longestName : Nat := 255

def longestPath : Nat := 4095

/-- One step along a path. Only a folder has a way on. -/
def step (d : Directory) (place : Place) (part : String) : Except ReadError Place :=
  match d.content? place with
  | some .folder =>
    if part = "" || part = "." then .ok place
    else if part = ".." then .ok place.parent
    else if part.utf8ByteSize > longestName then .error .nameTooLong
    else
      match place.child? part with
      | some next => if (d.content? next).isSome then .ok next else .error .notFound
      | none => .error .notFound
  | some _ => .error .notDirectory
  | none => .error .notFound

/-- Follows the path from the directory, or from the root if it begins with a slash. A text with a
null character is no path at all, whatever else is wrong with it. -/
def files (d : Directory) : Files := fun path =>
  if path.toList.contains '\x00' then .error .noPath
  else if path.isEmpty then .error .notFound
  else if path.utf8ByteSize > longestPath then .error .nameTooLong
  else do
    let start := if path.toList.head? = some '/' then Place.rooted [] else Place.inside []
    let place ← (parts path).foldlM d.step start
    match d.content? place with
    | some content => content.read
    | none => .error .notFound

end Directory
end MagicBaud

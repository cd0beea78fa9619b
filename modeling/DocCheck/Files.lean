import DocCheck.Path

/-!
# Files

What the checker asks of files: the text of the file at a path. Files never change while it runs.

* `FileError` — why a file has no text;
* `Files` — the files as a function from paths to texts;
* `FileTree` — files held in memory, below one directory.
-/

namespace DocCheck

/-- Why a file has no text. -/
inductive FileError where
  /-- Nothing is there. -/
  | notFound
  /-- A directory is there. -/
  | isDirectory
  /-- Something on the way is no directory. -/
  | notDirectory
  /-- A name on the way is too long. -/
  | nameTooLong
  /-- Reading is not allowed. -/
  | denied
  /-- The path holds a character that no path may hold. -/
  | badPath
  /-- The bytes are no text. -/
  | notText
  /-- Anything else. -/
  | other (reason : String)
  deriving DecidableEq

namespace FileError

def message : FileError → String
  | notFound => "No such file or directory (os error 2)"
  | isDirectory => "Is a directory (os error 21)"
  | notDirectory => "Not a directory (os error 20)"
  | nameTooLong => "File name too long (os error 36)"
  | denied => "Permission denied (os error 13)"
  | badPath => "file name contained an unexpected NUL byte"
  | notText => "stream did not contain valid UTF-8"
  | other reason => reason

end FileError

/-- The files, as a function from paths to texts. -/
structure Files where
  /-- The text of the file at a path. -/
  read : String → Except FileError String

/-! ### Files in memory -/

/-- What is at a path in memory. -/
inductive FileTree.Entry where
  /-- A file with a text. -/
  | text (content : String)
  /-- A file whose bytes are no text. -/
  | binary
  /-- A directory, possibly empty. -/
  | directory
  deriving DecidableEq

/-- Files held in memory. Paths are taken relative to one directory; nothing is known outside. Of
two entries with the same path the later one stays. -/
structure FileTree where
  /-- The entries by the names on the way to them. -/
  entries : List (List String × FileTree.Entry)
  deriving DecidableEq

namespace FileTree

def empty : FileTree := ⟨[]⟩

/-- The names on the way to a path. -/
def names (path : String) : List String :=
  ((Path.segments '/' path.toList).map String.ofList).filter fun s => s != "" && s != "."

/-- Puts an entry at a path. -/
def insert (t : FileTree) (path : String) (e : Entry) : FileTree :=
  ⟨(names path, e) :: t.entries⟩

/-- What is at a place. Whatever has an entry below it is a directory. -/
def entry? (t : FileTree) (place : List String) : Option Entry :=
  match t.entries.find? fun e => e.1 == place with
  | some e => some e.2
  | none => if t.entries.any fun e => place.isPrefixOf e.1 then some .directory else none

/-- A place on the way along a path. -/
inductive Place where
  /-- A directory. -/
  | inside (names : List String)
  /-- A directory of which nothing is known. -/
  | outside
  /-- A file. -/
  | file (entry : Entry)
  deriving DecidableEq

/-- One name further along a path. -/
def step (t : FileTree) (place : Place) (name : String) : Except FileError Place :=
  match place with
  | .file _ => .error .notDirectory
  -- Outside only names that stay there are known.
  | .outside => if ["", ".", ".."].contains name then .ok .outside else .error .notFound
  | .inside names =>
    if name = "" || name = "." then .ok place
    else if name = ".." then .ok (if names.isEmpty then .outside else .inside names.dropLast)
    else if 255 < name.utf8ByteSize then .error .nameTooLong
    else
      match t.entry? (names ++ [name]) with
      | none => .error .notFound
      | some .directory => .ok (.inside (names ++ [name]))
      | some e => .ok (.file e)

/-- Along the names of a path. -/
def walk (t : FileTree) : Place → List String → Except FileError Place
  | place, [] => .ok place
  | place, name :: rest =>
    match t.step place name with
    | .ok place => walk t place rest
    | .error e => .error e

/-- The text of the file at a path. -/
def read (t : FileTree) (path : String) : Except FileError String :=
  let names := (Path.segments '/' path.toList).map String.ofList
  let start := if Path.isAbsolute path then Place.outside else .inside []
  if path.toList.contains '\x00' then .error .badPath
  else if path.isEmpty then .error .notFound
  else if 4096 ≤ path.utf8ByteSize then .error .nameTooLong
  else
    match t.walk start names with
    | .error e => .error e
    | .ok (.file (.text s)) => .ok s
    | .ok (.file .binary) => .error .notText
    | .ok _ => .error .isDirectory

def files (t : FileTree) : Files := ⟨t.read⟩

end FileTree

end DocCheck

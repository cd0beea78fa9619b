/-!
# Kinds of documents

A document is a profile or a legacy document. Its kind decides which schema it is checked against,
and the strictness of a run decides whether schemas are tightened first.

* `Kind.name`, `Kind.ofDirName` — a kind's directory name, and back;
* `Kind.schemaFile` — the file that holds its schema;
* `InputFile` — a file argument with the kind it was given.
-/

namespace DocCheck

/-- The two kinds of documents. -/
inductive Kind where
  /-- Documents in a `profiles` directory. -/
  | profile
  /-- Documents in a `legacies` directory. -/
  | legacy
  deriving DecidableEq, Inhabited

namespace Kind

/-- Every kind, in the order of reports. -/
def all : List Kind := [.profile, .legacy]

/-- The plural name, used for directories and in messages. -/
def name : Kind → String
  | profile => "profiles"
  | legacy => "legacies"

/-- The name that a debugging text shows. -/
def debugName : Kind → String
  | profile => "Profile"
  | legacy => "Legacy"

/-- The name of the schema file in a version directory. -/
def schemaFile : Kind → String
  | profile => "profiles.json"
  | legacy => "legacies.json"

/-- The kind of the documents in a directory of this name. -/
def ofDirName (name : String) : Option Kind := all.find? fun k => k.name == name

/-- The place of a kind in `all`. -/
def index : Kind → Nat
  | profile => 0
  | legacy => 1

/-- A directory name belongs to at most one kind, and each kind has one. -/
@[simp] theorem ofDirName_name (k : Kind) : ofDirName k.name = some k := by
  cases k <;> decide

end Kind

/-- Whether object schemas are tightened before they are compiled. -/
inductive Strictness where
  /-- An object schema that lists properties refuses all others. -/
  | tight
  /-- Schemas are taken as written. -/
  | loose
  deriving DecidableEq

namespace Strictness

def name : Strictness → String
  | tight => "tight"
  | loose => "loose"

end Strictness

/-- A file argument and its kind. -/
structure InputFile where
  /-- The path, as given on the command line. -/
  path : String
  /-- The kind it was classified as. -/
  kind : Kind
  deriving DecidableEq

end DocCheck

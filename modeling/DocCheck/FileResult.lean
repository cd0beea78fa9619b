import DocCheck.Violation

/-!
# Results per file

What became of one file. A file that cannot be read, or holds no document, never reaches its
schema; such a failure concerns this file only.
-/

namespace DocCheck

/-- What became of a file. -/
inductive Outcome where
  /-- The document matches its schema. -/
  | valid
  /-- The file could not be read. -/
  | readError (reason : String)
  /-- The file holds no document that JSON can express. -/
  | parseError (reason : String)
  /-- The document violates its schema. -/
  | schemaErrors (violations : List Violation)
  deriving DecidableEq

namespace Outcome

/-- Whether the document matches its schema. -/
def isValid : Outcome → Bool
  | valid => true
  | _ => false

/-- The name of an outcome in answers. -/
def name : Outcome → String
  | valid => "Valid"
  | readError _ => "ReadError"
  | parseError _ => "ParseError"
  | schemaErrors _ => "SchemaErrors"

/-- The outcome for a document with these violations. -/
def ofViolations (violations : List Violation) : Outcome :=
  if violations.isEmpty then valid else schemaErrors violations

end Outcome

/-- A file and what became of it. -/
structure FileResult where
  /-- The path, as given on the command line. -/
  filename : String
  /-- What became of the file. -/
  outcome : Outcome
  deriving DecidableEq

namespace FileResult

/-- Whether the document matches its schema. -/
def isValid (r : FileResult) : Bool := r.outcome.isValid

end FileResult

end DocCheck

import DocCheck.Event
import DocCheck.Files
import DocCheck.Json.Reader
import DocCheck.Schema.Build
import DocCheck.Schema.Tighten
import DocCheck.SchemaError
import DocCheck.Violation

/-!
# Validators

A validator is the compiled schema of one kind. References to other schemas are looked up by file
name in the version directory, wherever their URIs point; nothing is ever fetched from elsewhere.
With tight strictness every schema is tightened as it is read.

* `Validator.compile` — the validator of a schema;
* `Validator.load` — the validator of the schema file of a kind;
* `Validator.violations` — what it finds in a document.
-/

namespace DocCheck

namespace Strictness

/-- A schema as it is used with this strictness. -/
def apply (s : Strictness) (schema : Json) : Json :=
  match s with
  | tight => Schema.tighten schema
  | loose => schema

end Strictness

/-! ### Reading referenced schemas -/

/-- A directory with schema files, and how strict schemas are read from it. -/
structure SchemaDir where
  files : Files
  path : String
  strictness : Strictness

namespace SchemaDir

/-- The name of the file for a URI: what stands behind its last slash. -/
def fileName? (uri : String) : Option String :=
  let name := String.ofList (uri.toList.reverse.takeWhile (· != '/')).reverse
  -- Two dots would lead out of the directory.
  if name.isEmpty || name == ".." then none else some name

/-- The path of the file for a URI. -/
def pathOf? (dir : SchemaDir) (uri : String) : Option String :=
  (fileName? uri).map (Path.join dir.path)

def retrieve (dir : SchemaDir) : Schema.Retrieve := fun uri =>
  match dir.pathOf? uri with
  | none => .error ("cannot resolve '" ++ uri ++ "' to a schema file")
  | some path =>
    match dir.files.read path with
    | .error e => .error ("cannot resolve '" ++ uri ++ "' via " ++ path ++ ": " ++ e.message)
    | .ok text =>
      match Json.read text with
      | .error e => .error ("invalid JSON in " ++ path ++ ": " ++ e.message)
      -- A schema that is referred to is read as strictly as the one that refers to it.
      | .ok schema => .ok (dir.strictness.apply schema)

/-- The event of reading the schema of a URI. -/
def event (dir : SchemaDir) (uri : String) : Event :=
  .resolved uri ((dir.pathOf? uri).getD "")

end SchemaDir

/-! ### Violations -/

namespace Violation

/-- The keyword that a fault is reported under: the last step to it whose name is not empty. A
schema without keywords is called `schema`. -/
def keywordOf (steps : List Json.Step) : String :=
  let names := steps.map fun
    | .key name => name
    | .index i => toString i
  (names.reverse.find? fun n => n != "").getD "schema"

/-- The violations that a fault stands for: one for each member that is not listed, and one for
anything else. -/
def ofFault (document : Json) (f : Schema.Fault) : List Violation :=
  let location := Location.ofPointer (Json.Pointer.render f.path) document
  match f.cause with
  | .additionalProperties names =>
    names.map fun name =>
      ⟨location, .additionalProperty name,
        "Additional properties are not allowed ('" ++ name ++ "' was unexpected)"⟩
  | .required property => [⟨location, .required property, f.message⟩]
  | _ => [⟨location, .other (keywordOf f.keywords), f.message⟩]

end Violation

/-- The compiled schema of one kind. -/
structure Validator where
  kind : Kind
  source : String
  program : Schema.Program

namespace Validator

/-- What a validator finds in a document. -/
def violations (v : Validator) (document : Json) : List Violation :=
  (v.program.faults document).flatMap (Violation.ofFault document)

/-- The text by which a validator is shown when looking for errors. -/
def debugText (v : Validator) : String :=
  "CompiledValidator \x7b kind: " ++ v.kind.debugName ++ ", source: " ++ Text.quotedPath v.source
    ++ ", .. \x7d"

/-- The validator of a schema that was read from `source`. -/
def compile (kind : Kind) (schema : Json) (source : String) (dir : SchemaDir) :
    Traced (Except SchemaError Validator) :=
  match Schema.Program.build dir.retrieve (dir.strictness.apply schema) with
  | (read, .ok program) => ⟨read.map dir.event, .ok ⟨kind, source, program⟩⟩
  | (read, .error e) => ⟨read.map dir.event, .error (.compile kind source e.message)⟩

/-- The schema in the file at a path. -/
def readSchema (files : Files) (kind : Kind) (path : String) : Except SchemaError Json :=
  match files.read path with
  | .error e => .error (.load kind path e.message)
  | .ok text =>
    match Json.read text with
    | .error e => .error (.load kind path ("invalid JSON: " ++ e.message))
    | .ok schema => .ok schema

/-- The validator of the schema file of a kind. -/
def load (files : Files) (config : Config) (strictness : Strictness) (kind : Kind) :
    Traced (Except SchemaError Validator) :=
  let path := Path.join config.versionDir kind.schemaFile
  let begin := [Event.loading kind path strictness]
  match readSchema files kind path with
  | .error e => ⟨begin, .error e⟩
  | .ok schema =>
    match compile kind schema path ⟨files, config.versionDir, strictness⟩ with
    | ⟨events, .ok v⟩ => ⟨begin ++ events ++ [.compiled kind path strictness], .ok v⟩
    | ⟨events, .error e⟩ => ⟨begin ++ events, .error e⟩

end Validator

end DocCheck

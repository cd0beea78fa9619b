import DocCheck.Classification
import DocCheck.Text.Quoted

/-!
# Events

What a run does, told as it happens, for its log. Each event has a level, the part of the program
that it comes from, and fields.

* `Level`, `Part`, `Phase` — the words of events;
* `Event` — the events;
* `Event.text` — an event as it stands in a log;
* `Traced` — a result with the events on the way to it.
-/

namespace DocCheck

/-- How important an event is. -/
inductive Level where
  | error
  | warn
  | info
  | debug
  | trace
  deriving DecidableEq

namespace Level

/-- Every level, the most important first. -/
def all : List Level := [error, warn, info, debug, trace]

def name : Level → String
  | error => "ERROR"
  | warn => "WARN"
  | info => "INFO"
  | debug => "DEBUG"
  | trace => "TRACE"

/-- The place in `all`, counted from one. -/
def rank : Level → Nat
  | error => 1
  | warn => 2
  | info => 3
  | debug => 4
  | trace => 5

end Level

/-- The part of the program that an event comes from. -/
inductive Part where
  | program
  | run
  | classifier
  | loader
  | document
  deriving DecidableEq

/-- The name by which a filter selects a part. -/
def Part.name : Part → String
  | program => "profcheck"
  | run => "profcheck_cli::run"
  | classifier => "profcheck_cli::classify"
  | loader => "profcheck_schema::loader"
  | document => "profcheck_schema::document"

/-- The phases of a run. -/
inductive Phase where
  | idle
  | classifying
  | loadingSchemas
  | validating
  | reporting
  | done
  deriving DecidableEq

namespace Phase

def all : List Phase := [idle, classifying, loadingSchemas, validating, reporting, done]

def name : Phase → String
  | idle => "idle"
  | classifying => "classifying"
  | loadingSchemas => "loading-schemas"
  | validating => "validating"
  | reporting => "reporting"
  | done => "done"

end Phase

/-- Something that happens in a run. -/
inductive Event where
  /-- The environment was read. -/
  | configured (versionDir version : String)
  /-- A phase begins. -/
  | entering (phase : Phase)
  /-- A token changed how the next files get their kinds. -/
  | modeSwitch (flag : String) (mode : Mode)
  /-- The path of a file did not tell its kind. -/
  | assumed (path : String)
  /-- There are no files. -/
  | noFiles
  /-- The tokens have been classified. -/
  | classified (profiles legacies : Nat) (strictness : Strictness)
  /-- The schema of a kind is about to be read. -/
  | loading (kind : Kind) (path : String) (strictness : Strictness)
  /-- A schema that another one refers to was read. -/
  | resolved (uri path : String)
  /-- The schema of a kind is ready. -/
  | compiled (kind : Kind) (path : String) (strictness : Strictness)
  /-- A file is valid. -/
  | valid (file : String) (kind : Kind)
  /-- A file holds no document. -/
  | notValidated (file : String) (kind : Kind) (reason : String)
  /-- A file violates its schema. -/
  | violations (file : String) (kind : Kind) (count : Nat)
  /-- All files have been checked. -/
  | finished (total passed failed : Nat)
  deriving DecidableEq

namespace Event

def level : Event → Level
  | assumed _ | noFiles => .warn
  | classified .. | compiled .. | finished .. => .info
  | modeSwitch .. => .trace
  | _ => .debug

def part : Event → Part
  | configured .. => .program
  | modeSwitch .. => .classifier
  | loading .. | resolved .. | compiled .. => .loader
  | valid .. | notValidated .. | violations .. => .document
  | _ => .run

def message : Event → String
  | configured .. => "resolved configuration"
  | entering _ => "entering phase"
  | modeSwitch .. => "mode switch"
  | assumed path => Classification.assumedWarning path
  | noFiles => "no input files given"
  | classified .. => "classified inputs"
  | loading .. => "loading schema"
  | resolved .. => "resolved schema reference"
  | compiled .. => "compiled schema"
  | valid .. => "valid"
  | notValidated .. => "not validated"
  | violations .. => "schema violations"
  | finished .. => "validation finished"

def fields : Event → List (String × String)
  | configured dir version => [("schema_dir", dir), ("schema_version", version)]
  | entering phase => [("phase", phase.name)]
  | modeSwitch flag mode => [("flag", Text.quoted flag), ("mode", mode.debugName)]
  | assumed _ | noFiles => []
  | classified profiles legacies strictness =>
    [("profiles", toString profiles), ("legacies", toString legacies),
      ("strictness", strictness.name)]
  | loading kind path strictness | compiled kind path strictness =>
    [("kind", kind.name), ("path", path), ("strictness", strictness.name)]
  | resolved uri path => [("uri", Text.quoted uri), ("path", path)]
  | valid file kind => [("file", file), ("kind", kind.name)]
  | notValidated file kind reason =>
    [("file", file), ("kind", kind.name), ("reason", reason)]
  | violations file kind count =>
    [("file", file), ("kind", kind.name), ("violations", toString count)]
  | finished total passed failed =>
    [("total", toString total), ("passed", toString passed), ("failed", toString failed)]

/-- The names of all fields of an event, of which the message is one. -/
def fieldNames (e : Event) : List String := "message" :: e.fields.map Prod.fst

/-- An event as it stands in a log. -/
def text (e : Event) : String :=
  e.level.name ++ " " ++ e.message
    ++ String.join (e.fields.map fun f => " " ++ f.1 ++ "=" ++ f.2)

end Event

/-- A result with the events on the way to it. -/
structure Traced (α : Type) where
  events : List Event
  result : α

namespace Traced

/-- A result with more events before it. -/
def after {α : Type} (events : List Event) (t : Traced α) : Traced α :=
  { t with events := events ++ t.events }

def all {α : Type} (ts : List (Traced α)) : Traced (List α) :=
  ⟨ts.flatMap Traced.events, ts.map Traced.result⟩

end Traced

end DocCheck

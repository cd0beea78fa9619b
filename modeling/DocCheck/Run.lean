import DocCheck.Document
import DocCheck.Report
import DocCheck.ValidatorSet

/-!
# Runs

A run classifies the tokens of a command line, loads the schemas of the kinds that occur, checks
each file and reports. Unusable tokens or schemas end it before any document is read; whatever is
wrong with a document concerns that document only.

* `RunError` — why a run ends without a report;
* `checkFile` — what becomes of one file;
* `run` — a whole run.
-/

namespace DocCheck

/-- Why a run ends without a report. -/
inductive RunError where
  /-- The command line or the environment is unusable. -/
  | config (error : ConfigError)
  /-- The schema of a kind is unusable. -/
  | schema (error : SchemaError)
  /-- A file has a kind for which there is no validator. -/
  | internal (reason : String)
  deriving DecidableEq

namespace RunError

def message : RunError → String
  | config e => e.message
  | schema e => e.message
  | internal reason => "internal error: " ++ reason

/-- No validator was loaded for the kind of a file. -/
def noValidator (file : InputFile) : RunError :=
  internal ("no " ++ file.kind.name ++ " validator loaded for '" ++ file.path ++ "'")

end RunError

/-! ### Single files -/

def checkText (v : Validator) (text : String) : Outcome :=
  match readDocument text with
  | .error e => .parseError e.message
  | .ok document => .ofViolations (v.violations document)

/-- What becomes of the file at a path. -/
def checkPath (files : Files) (v : Validator) (path : String) : Outcome :=
  match files.read path with
  | .error e => .readError ("cannot read file: " ++ e.message)
  | .ok text => checkText v text

/-- The event of a file's outcome. -/
def Outcome.event (file : InputFile) : Outcome → Event
  | .valid => .valid file.path file.kind
  | .readError reason | .parseError reason => .notValidated file.path file.kind reason
  | .schemaErrors violations => .violations file.path file.kind violations.length

def checkFile (files : Files) (v : Validator) (file : InputFile) : Traced FileResult :=
  let outcome := checkPath files v file.path
  ⟨[outcome.event file], ⟨file.path, outcome⟩⟩

/-! ### Whole runs -/

/-- Each file with the validator of its kind. -/
def withValidators (set : ValidatorSet) :
    List InputFile → Except RunError (List (InputFile × Validator))
  | [] => .ok []
  | f :: fs =>
    match set.get? f.kind with
    | none => .error (.noValidator f)
    | some v => (withValidators set fs).map ((f, v) :: ·)

/-- Checks files in order. Nothing is checked if a file has no validator. -/
def checkFiles (files : Files) (set : ValidatorSet) (inputs : List InputFile) :
    Traced (Except RunError Report) :=
  match withValidators set inputs with
  | .error e => ⟨[], .error e⟩
  | .ok pairs =>
    -- Every file is checked, whatever is wrong with those before it.
    let checks := Traced.all (pairs.map fun p => checkFile files p.2 p.1)
    ⟨checks.events, .ok ⟨checks.result⟩⟩

/-- The events of the tokens up to the first that is refused. -/
def tokenEvents (s : Classifier) : List String → List Event
  | [] => []
  | t :: ts =>
    match s.accept t with
    | .error _ => []
    | .ok s =>
      -- The event shows the mode behind the switch.
      if Classifier.isFlag t then .modeSwitch t s.mode :: tokenEvents s ts else tokenEvents s ts

/-- The events about the files that were found. -/
def classificationEvents (c : Classification) : List Event :=
  c.assumed.map Event.assumed ++ (if c.files.isEmpty then [.noFiles] else [])
    ++ [.classified c.profiles.length c.legacies.length c.strictness]

/-- The second half of a run, once the schemas are loaded. -/
def runFiles (files : Files) (set : ValidatorSet) (inputs : List InputFile) :
    Traced (Except RunError Report) :=
  match checkFiles files set inputs with
  | ⟨events, .error e⟩ => ⟨.entering .validating :: events, .error e⟩
  | ⟨events, .ok report⟩ =>
    ⟨.entering .validating :: events
      ++ [.entering .reporting, .finished report.total report.passed report.failed,
        .entering .done],
      .ok report⟩

/-- The first half of a run, once the tokens are classified. -/
def runClassified (files : Files) (config : Config) (c : Classification) :
    Traced (Except RunError Report) :=
  match ValidatorSet.load files config c.strictness c.kinds with
  | ⟨events, .error e⟩ => ⟨.entering .loadingSchemas :: events, .error (.schema e)⟩
  | ⟨events, .ok set⟩ => (runFiles files set c.files).after (.entering .loadingSchemas :: events)

def run (files : Files) (config : Config) (tokens : List String) :
    Traced (Except RunError Report) :=
  let start := [Event.entering .idle, .entering .classifying] ++ tokenEvents .start tokens
  match classify tokens with
  -- What was taken before the refused token has been told already.
  | .error e => ⟨start, .error (.config e)⟩
  | .ok c => (runClassified files config c).after (start ++ classificationEvents c)

end DocCheck

import DocCheck.FileResult
import DocCheck.Text.Lines
import DocCheck.Text.Paint

/-!
# Reports

The results of a run, in the order of its files, and their text: a summary line, then for every
failing file an empty line, its name, and what is wrong with it, indented.

* `Report` — the results and their counts;
* `Report.render` — the text of a report.
-/

namespace DocCheck

/-- The results of a run. -/
structure Report where
  /-- One result per file, in the order of the files. -/
  results : List FileResult
  deriving DecidableEq

namespace Report

def total (r : Report) : Nat := r.results.length

def passed (r : Report) : Nat := (r.results.filter FileResult.isValid).length

/-- How many files are not valid. -/
def failed (r : Report) : Nat := r.total - r.passed

/-- The results of the files that are not valid. -/
def failures (r : Report) : List FileResult := r.results.filter fun x => !x.isValid

def isSuccess (r : Report) : Bool := r.results.all FileResult.isValid

/-! ### Text -/

def summary (r : Report) : String :=
  if r.isSuccess then "All " ++ toString r.total ++ " file(s) are valid"
  else toString r.failed ++ " of " ++ toString r.total ++ " file(s) failed validation"

/-- The lines that say what is wrong with a file. -/
def details : Outcome → List String
  | .valid => []
  | .readError reason => (Text.lines reason).map fun l => "  " ++ l
  | .parseError reason => (Text.lines reason).map fun l => "  " ++ l
  | .schemaErrors violations => violations.map fun v => "  - " ++ v.line

/-- The lines about a failing file. -/
def failureLines (colour : Bool) (r : FileResult) : List String :=
  "" :: Paint.bold.apply colour r.filename :: details r.outcome

def textLines (colour : Bool) (r : Report) : List String :=
  if r.isSuccess then [Paint.green.apply colour r.summary]
  else Paint.red.apply colour r.summary :: r.failures.flatMap (failureLines colour)

/-- The text of a report, each of its lines ended by a line feed. -/
def render (colour : Bool) (r : Report) : String :=
  String.join ((r.textLines colour).map fun l => l ++ "\n")

end Report

end DocCheck

import DocCheck.Async
import DocCheck.Run

/-!
# Runs as jobs

The two phases of a run that do many things at once. Validators are loaded with a job for each kind,
and files are checked with a job for each file; in both phases the jobs are waited for in the order
in which they were started.

* `ValidatorSet.loading` — loading the validators of some kinds;
* `checking` — checking files.
-/

namespace DocCheck

/-- Loads the validators of some kinds, with a job for each. All jobs are waited for before the
first failure is looked for. -/
def ValidatorSet.loading (config : Config) (strictness : Strictness) (kinds : List Kind) :
    Async (Except SchemaError Validator) (Except SchemaError ValidatorSet) :=
  .spawnAll
    ((distinctKinds kinds).map fun k files => (Validator.load files config strictness k).result)
    fun jobs => .joinAll jobs fun results => .done (ofResults results)

/-- Starts a job for each file, behind the jobs that were started for the files before, and waits
for all of them. A file without a validator ends this at once; what was started runs on, and nobody
asks for it. -/
def checkingAfter (set : ValidatorSet) (jobs : List Nat) :
    List InputFile → Async FileResult (Except RunError Report)
  | [] => .joinAll jobs fun results => .done (.ok ⟨results⟩)
  | f :: rest =>
    match set.get? f.kind with
    | none => .done (.error (.noValidator f))
    | some v =>
      .spawn (fun files => (checkFile files v f).result) fun job =>
        checkingAfter set (jobs ++ [job]) rest

/-- Checks files, with a job for each. -/
def checking (set : ValidatorSet) (inputs : List InputFile) :
    Async FileResult (Except RunError Report) :=
  checkingAfter set [] inputs

end DocCheck

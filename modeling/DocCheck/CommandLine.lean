import DocCheck.CommandLine.Usage
import DocCheck.Log
import DocCheck.Run

/-!
# The command line

The program reads its arguments and its environment, runs, and prints a report, or what went wrong.

* `CommandLine.Output` — what the program prints, and its exit status;
* `CommandLine.execute` — the output for arguments, an environment and files.
-/

namespace DocCheck.CommandLine

/-- What the program prints, and its exit status. -/
structure Output where
  /-- The exit status. -/
  status : Nat
  /-- The text on standard output. -/
  stdout : String
  /-- The lines on standard error, which may hold line feeds themselves. -/
  stderr : List String
  deriving DecidableEq

/-- Lines as a text, each ended by a line feed. -/
def unlines (lines : List String) : String := String.join (lines.map fun l => l ++ "\n")

/-- Whether the environment insists on colours. -/
def insistsOnColour (lookup : String → Option String) : Bool :=
  (lookup "CLICOLOR_FORCE").any fun value => value != "0"

/-- Whether the environment forbids colours in texts about the arguments. -/
def forbidsColour (lookup : String → Option String) : Bool :=
  (lookup "NO_COLOR").any fun value => !value.isEmpty

/-- The line about an error that ends the program. -/
def errorLine (colour : Bool) (message : String) : String :=
  Paint.boldRed.apply colour "error:" ++ " " ++ message

/-- A run with the tokens behind the options. As nothing goes to a terminal, it is coloured only if
the environment insists. -/
def executeRun (lookup : String → Option String) (files : Files) (verbosity : Nat)
    (tokens : List String) : Output :=
  let colour := insistsOnColour lookup
  let filter := Log.Filter.choose (lookup Log.variableName) verbosity
  match Config.ofLookup lookup with
  | .error e => ⟨1, "", [errorLine colour ("invalid configuration: " ++ e.message)]⟩
  | .ok config =>
    let traced :=
      (run files config tokens).after [.configured config.versionDir config.schemaVersion]
    let log := filter.lines traced.events
    match traced.result with
    | .error e => ⟨1, "", log ++ [errorLine colour e.message]⟩
    | .ok report => ⟨if report.isSuccess then 0 else 1, report.render colour, log⟩

/-- What the program does for its arguments. -/
def execute (lookup : String → Option String) (files : Files) (args : List Argument) : Output :=
  let printed := Usage.printed (insistsOnColour lookup && !forbidsColour lookup)
  match parse args with
  | .help long => ⟨0, unlines (printed (Usage.help long)), []⟩
  | .version => ⟨0, Usage.versionText, []⟩
  | .noText => ⟨2, "", printed Usage.noText⟩
  | .surplusValue option value verbosity =>
    ⟨2, "", printed (Usage.surplusValue option value verbosity)⟩
  | .unknownOption name verbosity => ⟨2, "", printed (Usage.unknownOption name verbosity)⟩
  | .run verbosity tokens => executeRun lookup files verbosity tokens

end DocCheck.CommandLine

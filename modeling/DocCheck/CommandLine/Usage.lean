import DocCheck.CommandLine.Request
import DocCheck.Text.Control
import DocCheck.Text.Similar

/-!
# How the program is called

The help texts, and what is printed about arguments that cannot be used. All of it is written with
styles for a terminal, which are taken out again where colours are not wanted, together with all
other control sequences.

* `Usage.help`, `Usage.versionText` — what the program says about itself;
* `Usage.surplusValue`, `Usage.unknownOption`, `Usage.noText` — what it says about arguments;
* `Usage.printed` — lines as they are printed.
-/

namespace DocCheck.CommandLine.Usage

/-- What a piece of a text is. -/
inductive Role where
  /-- It heads a part of the text. -/
  | heading
  /-- It is to be typed as it stands. -/
  | literal
  /-- It announces an error. -/
  | problem
  /-- It would be right. -/
  | valid
  /-- It is wrong. -/
  | invalid
  deriving DecidableEq

/-- The sequence that switches the style of a role on. -/
def Role.start : Role → String
  | heading => "\x1b[1m\x1b[4m"
  | literal => "\x1b[1m"
  | problem => "\x1b[1m\x1b[31m"
  | valid => "\x1b[32m"
  | invalid => "\x1b[33m"

/-- A text in the style of a role. -/
def Role.mark (r : Role) (text : String) : String := r.start ++ text ++ "\x1b[0m"

def printed (colour : Bool) (lines : List String) : List String :=
  if colour then lines else lines.map Text.withoutSequences

/-! ### Texts of the program about itself -/

def versionText : String := "profcheck 0.1.0\n"

/-- The line that shows how the program is called, with some parts behind its name. -/
def lineWith (parts : List String) : String :=
  String.intercalate " " (Role.heading.mark "Usage:" :: Role.literal.mark "profcheck" :: parts)

/-- The files and mode switches, in the line that shows how the program is called. -/
def tokensPart : String := "[ARGS]..."

/-- The line that shows how the program is called. -/
def line : String := lineWith ["[OPTIONS]", tokensPart]

/-- The long name of an option, as it is typed. -/
def longName (option : LongOption) : String := "--" ++ option.name

/-- An option with a short and a long name. -/
def optionNames (letter : String) (option : LongOption) : String :=
  Role.literal.mark letter ++ ", " ++ Role.literal.mark (longName option)

/-- The option for more log lines. -/
def verboseName : String := Role.literal.mark "-v" ++ "..."

/-- What the option for more log lines does. -/
def verboseHelp : String := "Enable verbose logging. Repeat for more verbosity (-v, -vv, -vvv)"

def tokensHelp : String := "Files to validate, interleaved with mode switches"

def longHelp : List String :=
  ["Validate profile and legacy YAML documents against versioned JSON schemas.",
    "",
    "File arguments are classified by the directory they sit in (\x60profiles/\x60 or "
      ++ "\x60legacies/\x60). Mode switches apply to the arguments that follow them: --profiles, "
      ++ "--legacies, --sniff, --nosniff. --loose disables schema tightening and must come "
      ++ "before any file.",
    "",
    "Schemas are read from $PROFCHECK_SCHEMA_ROOT/$PROFCHECK_SCHEMA_VERSION (default: schemas/v1).",
    "",
    line,
    "",
    Role.heading.mark "Arguments:",
    "  " ++ tokensPart,
    "          " ++ tokensHelp,
    "",
    Role.heading.mark "Options:",
    "  " ++ verboseName,
    "          " ++ verboseHelp,
    "",
    "  " ++ optionNames "-h" .help,
    "          Print help (see a summary with '-h')",
    "",
    "  " ++ optionNames "-V" .version,
    "          Print version"]

/-- The summary of the help text. -/
def shortHelp : List String :=
  ["Validate profile and legacy YAML documents against versioned JSON schemas",
    "",
    line,
    "",
    Role.heading.mark "Arguments:",
    "  " ++ tokensPart ++ "  " ++ tokensHelp,
    "",
    Role.heading.mark "Options:",
    "  " ++ verboseName ++ "          " ++ verboseHelp,
    "  " ++ optionNames "-h" .help ++ "     Print help (see more with '--help')",
    "  " ++ optionNames "-V" .version ++ "  Print version"]

/-- The help text; the long one, or the summary. -/
def help (long : Bool) : List String := if long then longHelp else shortHelp

/-! ### Texts about arguments -/

/-- The line that shows how the program is called, for arguments that hold an option of a long name,
or none, after so many letters for log lines. -/
def lineFor (option : Option LongOption) (verbosity : Nat) : String :=
  let named := (option.map fun o => Role.literal.mark (longName o)).toList
  if verbosity = 0 then
    match option with
    | none => line
    | some _ => lineWith (named ++ [tokensPart])
  else lineWith (named ++ ["<-v...|ARGS>"])

/-- What is said about arguments that cannot be used: what is wrong, tips, and how the program is
called. -/
def complaint (what : String) (tips : List String) (usage : String) : List String :=
  [Role.problem.mark "error:" ++ " " ++ what, ""]
    ++ (if tips.isEmpty then [] else
        (tips.map fun t => "  " ++ Role.valid.mark "tip:" ++ " " ++ t) ++ [""])
    ++ [usage, "", "For more information, try '" ++ Role.literal.mark "--help" ++ "'."]

/-- What is said about a value for an option that takes none. -/
def surplusValue (option : LongOption) (value : String) (verbosity : Nat) : List String :=
  complaint
    ("unexpected value '" ++ Role.invalid.mark value ++ "' for '"
      ++ Role.literal.mark (longName option) ++ "' found; no more were expected")
    [] (lineFor (some option) verbosity)

/-- What is said about an option that is not known. A similar one is proposed; else the argument
may have been meant as a token. -/
def unknownOption (name : String) (verbosity : Nat) : List String :=
  let arg := "--" ++ name
  let similar := LongOption.all.find? fun o => Text.isSimilar name.toList o.name.toList
  let tip :=
    match similar with
    | some option => "a similar argument exists: '" ++ Role.valid.mark (longName option) ++ "'"
    | none => "to pass '" ++ Role.invalid.mark arg ++ "' as a value, use '"
        ++ Role.valid.mark ("-- " ++ arg) ++ "'"
  complaint ("unexpected argument '" ++ Role.invalid.mark arg ++ "' found") [tip]
    (lineFor similar verbosity)

/-- What is said about tokens that are no text. -/
def noText : List String :=
  complaint "invalid UTF-8 was detected in one or more arguments" [] line

end DocCheck.CommandLine.Usage

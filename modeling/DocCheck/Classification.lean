import DocCheck.Kind
import DocCheck.Config

/-!
# Classification of command-line tokens

The tokens of a command line are walked in order. A token that starts with two dashes is a mode
switch for the files after it; any other token is a file, and gets a kind:

* `--profiles` and `--legacies` name the kind;
* `--sniff` has it told from the path again, and `--nosniff` stops that;
* `--loose` leaves schemas as they are, for the whole run, and must come before any file.

* `sniff` — the kind that a path tells;
* `Classifier.accept` — one token;
* `classify` — a whole command line.
-/

namespace DocCheck

/-- The text that remains behind a given beginning. -/
def afterStart : List Char → List Char → Option (List Char)
  | [], cs => some cs
  | _ :: _, [] => none
  | p :: ps, c :: cs => if p = c then afterStart ps cs else none

/-- The kind whose directory name stands in front, followed by a slash and the name of a file. -/
def sniffHere (cs : List Char) : Option Kind :=
  Kind.all.find? fun k =>
    match afterStart k.name.toList cs with
    | some ('/' :: file) => file != [] && !file.contains '/'
    | _ => false

/-- Searches for such a place at the start of each directory name. -/
def sniffFrom : Bool → List Char → Option Kind
  | _, [] => none
  -- A directory name starts here: at the start of the path or behind a slash.
  | true, c :: cs =>
    match sniffHere (c :: cs) with
    | some k => some k
    | none => sniffFrom (c == '/') cs
  | false, c :: cs => sniffFrom (c == '/') cs

/-- The kind that the directory of a file tells, with slashes and backslashes alike dividing the
parts of the path. -/
def sniff (path : String) : Option Kind :=
  sniffFrom true (path.toList.map fun c => if c = '\\' then '/' else c)

/-- How the next file gets its kind. -/
inductive Mode where
  /-- A switch names the kind. -/
  | explicit (kind : Kind)
  /-- The path tells it. -/
  | sniff
  /-- There is no way to know it. -/
  | disabled
  deriving DecidableEq

namespace Mode

/-- The name that a log line shows. -/
def debugName : Mode → String
  | explicit k => "Explicit(" ++ k.debugName ++ ")"
  | sniff => "Sniff"
  | disabled => "Disabled"

end Mode

/-- The classified tokens of a command line. -/
structure Classification where
  /-- The files, in order. -/
  files : List InputFile
  /-- Whether schemas are tightened. -/
  strictness : Strictness
  /-- The files whose paths did not tell a kind, in order; they were taken as profiles. -/
  assumed : List String
  deriving DecidableEq

namespace Classification

/-- The paths of one kind, in order. -/
def pathsOf (c : Classification) (kind : Kind) : List String :=
  (c.files.filter fun f => f.kind == kind).map InputFile.path

/-- The paths of profiles, in order. -/
def profiles (c : Classification) : List String := c.pathsOf .profile

/-- The paths of legacy documents, in order. -/
def legacies (c : Classification) : List String := c.pathsOf .legacy

/-- The kinds that some file has, in the order of kinds. -/
def kinds (c : Classification) : List Kind :=
  Kind.all.filter fun k => c.files.any fun f => f.kind == k

/-- The warning about a file whose path did not tell a kind. -/
def assumedWarning (path : String) : String :=
  "cannot tell the document kind of '" ++ path ++ "' from its path; assuming profiles"

/-- The warnings about such files, in order. -/
def warnings (c : Classification) : List String := c.assumed.map assumedWarning

end Classification

/-- What the tokens so far have set. -/
structure Classifier where
  /-- The kind that a switch names. -/
  explicit : Option Kind
  /-- Whether paths are looked at while no kind is named. -/
  sniffing : Bool
  /-- The files so far. -/
  found : Classification
  deriving DecidableEq

namespace Classifier

def start : Classifier := ⟨none, true, ⟨[], .tight, []⟩⟩

/-- How the next file gets its kind. -/
def mode (s : Classifier) : Mode :=
  match s.explicit with
  | some k => .explicit k
  | none => if s.sniffing then .sniff else .disabled

/-- Whether a token is a mode switch rather than a file. -/
def isFlag (token : String) : Bool := (afterStart ['-', '-'] token.toList).isSome

def applyFlag (s : Classifier) (flag : String) : Except ConfigError Classifier :=
  if flag = "--profiles" then .ok { s with explicit := some .profile }
  else if flag = "--legacies" then .ok { s with explicit := some .legacy }
  else if flag = "--sniff" then .ok { s with explicit := none, sniffing := true }
  -- A kind named by a switch before stays in force.
  else if flag = "--nosniff" then .ok { s with sniffing := false }
  else if flag = "--loose" then
    -- The switch speaks of the whole run, so no file may stand before it.
    match s.found.files with
    | first :: _ => .error (.orderViolation flag first.path)
    | [] => .ok { s with found := { s.found with strictness := .loose } }
  else .error (.unknownFlag flag)

/-- Adds a file of a known kind. -/
def addFile (s : Classifier) (path : String) (kind : Kind) : Classifier :=
  { s with found := { s.found with files := s.found.files ++ [⟨path, kind⟩] } }

/-- Adds a file whose path did not tell a kind. -/
def assumeProfile (s : Classifier) (path : String) : Classifier :=
  let s := s.addFile path .profile
  { s with found := { s.found with assumed := s.found.assumed ++ [path] } }

def classifyFile (s : Classifier) (path : String) : Except ConfigError Classifier :=
  match s.mode with
  | .explicit k => .ok (s.addFile path k)
  | .sniff =>
    match DocCheck.sniff path with
    | some k => .ok (s.addFile path k)
    | none => .ok (s.assumeProfile path)
  | .disabled => .error (.unclassified path)

def accept (s : Classifier) (token : String) : Except ConfigError Classifier :=
  if isFlag token then s.applyFlag token else s.classifyFile token

/-- Takes tokens in order, up to the first that is refused. -/
def acceptAll (s : Classifier) : List String → Except ConfigError Classifier
  | [] => .ok s
  | t :: ts =>
    match s.accept t with
    | .ok s => acceptAll s ts
    | .error e => .error e

/-- How many tokens are taken before the first that is refused. -/
def accepted (s : Classifier) : List String → Nat
  | [] => 0
  | t :: ts =>
    match s.accept t with
    | .ok s => 1 + accepted s ts
    | .error _ => 0

end Classifier

/-- Classifies the tokens of a command line. -/
def classify (tokens : List String) : Except ConfigError Classification :=
  (Classifier.start.acceptAll tokens).map Classifier.found

end DocCheck

import DocCheck.Text.Utf8

/-!
# What arguments ask for

The arguments before the first token that is no option ask for more log lines, for help or for the
version. From that token on everything goes to the classifier untouched, because mode switches
depend on their places.

Options are read in the usual way, where two dashes in front of all tokens only mark the end of the
options and are no token. The classifier is to see them like any other switch, so they are put back.

* `Argument` — an argument, which may be no text;
* `Request` — what arguments ask for;
* `CommandLine.readArguments` — arguments as they are read in the usual way;
* `CommandLine.restoreMark` — the tokens with the mark that was taken from them;
* `CommandLine.parse` — the request of some arguments.
-/

namespace DocCheck.CommandLine

/-- An argument. -/
inductive Argument where
  | text (s : String)
  | bytes (bs : List UInt8)
  deriving DecidableEq

def Argument.ofBytes (bs : List UInt8) : Argument :=
  match Text.utf8Fault? bs with
  | none => .text (Text.ofBytes bs)
  | some _ => .bytes bs

/-- The text that an argument is. -/
def Argument.text? : Argument → Option String
  | text s => some s
  | bytes _ => none

/-- The options with a long name. -/
inductive LongOption where
  | help
  | version
  deriving DecidableEq

namespace LongOption

def all : List LongOption := [help, version]

/-- The name behind the two dashes. -/
def name : LongOption → String
  | help => "help"
  | version => "version"

def ofName? (word : String) : Option LongOption := all.find? fun o => o.name == word

end LongOption

/-- What arguments ask for. -/
inductive Request where
  /-- A help text; the long one, or a summary. -/
  | help (long : Bool)
  /-- The version. -/
  | version
  /-- A value for an option that takes none, after so many letters for log lines. -/
  | surplusValue (option : LongOption) (value : String) (verbosity : Nat)
  /-- An option whose name is no text, after so many letters for log lines. -/
  | unknownOption (name : String) (verbosity : Nat)
  /-- A token is no text. -/
  | noText
  /-- A run with these tokens. -/
  | run (verbosity : Nat) (tokens : List String)
  deriving DecidableEq

/-- What an option without a value asks for. -/
def LongOption.request : LongOption → Request
  | help => .help true
  | version => .version

/-- What the letters of an option ask for: more log lines, or something else at once. -/
def readLetters : List Char → Nat → Option (Nat ⊕ Request)
  | [], n => some (.inl n)
  | 'v' :: cs, n => readLetters cs (n + 1)
  -- One letter that is no option makes the whole argument a token.
  | 'h' :: cs, _ => if cs.all "vhV".toList.contains then some (.inr (.help false)) else none
  | 'V' :: cs, _ => if cs.all "vhV".toList.contains then some (.inr .version) else none
  | _, _ => none

/-- What a name behind two dashes asks for. -/
def readName (word : String) (value : Option String) (verbosity : Nat) : Option Request :=
  (LongOption.ofName? word).map fun option =>
    match value with
    | none => option.request
    | some value => .surplusValue option value verbosity

/-- What a text asks for as an option; nothing if it is none. -/
def readOption (arg : String) (verbosity : Nat) : Option (Nat ⊕ Request) :=
  match arg.toList with
  | '-' :: '-' :: word =>
    let name := word.takeWhile (· != '=')
    let value := (word.drop name.length).tail?.map String.ofList
    (readName (String.ofList name) value verbosity).map .inr
  | '-' :: c :: cs => readLetters (c :: cs) verbosity
  | _ => none

/-- What bytes that are no text ask for. They are an option only with a name behind two dashes. -/
def readBytes (bs : List UInt8) (verbosity : Nat) : Request :=
  match bs with
  | 0x2D :: 0x2D :: word =>
    let name := word.takeWhile (· != 0x3D)
    match Argument.ofBytes name with
    | .bytes _ => .unknownOption (Text.ofBytes name) verbosity
    | .text s =>
      let value := (word.drop name.length).tail?.map Text.ofBytes
      (readName s value verbosity).getD .noText
  | _ => .noText

/-- The token that marks the end of the options. -/
def endMark : String := "--"

/-- A run with arguments as its tokens; there is none if one of them is no text. -/
def runWith (verbosity : Nat) (args : List Argument) : Request :=
  match args.mapM Argument.text? with
  | some tokens => .run verbosity tokens
  | none => .noText

/-- What arguments ask for, after so many letters for log lines. The first that is no option ends
the options; it is the first token, unless it is the mark for just this end. -/
def readFrom : Nat → List Argument → Request
  | verbosity, [] => .run verbosity []
  | verbosity, .bytes bs :: _ => readBytes bs verbosity
  | verbosity, .text arg :: rest =>
    if arg = endMark then runWith verbosity rest
    else
      match readOption arg verbosity with
      | some (.inl n) => readFrom n rest
      | some (.inr request) => request
      | none => runWith verbosity (.text arg :: rest)

/-- What arguments ask for, where a mark behind the options is no token. -/
def readArguments (args : List Argument) : Request := readFrom 0 args

/-- Whether an argument asks for log lines and nothing else: one dash and letters `v`. -/
def Argument.isVerbosity : Argument → Bool
  | text s =>
    match s.toList with
    | '-' :: letters => !letters.isEmpty && letters.all (· == 'v')
    | _ => false
  | bytes _ => false

/-- The tokens that were read from some arguments, with the mark in front of them if it stands
there. Only arguments that ask for log lines can stand before it, as all other options end the
reading. -/
def restoreMark (args : List Argument) (tokens : List String) : List String :=
  if args.find? (fun a => !a.isVerbosity) = some (.text endMark) then endMark :: tokens else tokens

def parse (args : List Argument) : Request :=
  match readArguments args with
  | .run verbosity tokens => .run verbosity (restoreMark args tokens)
  | request => request

end DocCheck.CommandLine

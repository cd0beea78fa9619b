import DocCheck.Text.Utf8

/-!
# YAML text and places in it

A `Source` is the text still to be read and the place where it starts. The end of the text counts
as a character that is no character, so tests of the next character take an `Option Char`.

* `Mark` — a place in a text;
* `Source.advance`, `Source.skipLine`, `Source.lineBreak?` — steps through a text;
* `isBlankOrEnd` — what may follow an indicator.
-/

namespace DocCheck.Yaml

/-- A place in a text; lines and columns are counted from zero. -/
structure Mark where
  /-- How many bytes stand before. -/
  index : Nat
  /-- How many lines stand before. -/
  line : Nat
  /-- How many characters of the line stand before. -/
  column : Nat
  deriving DecidableEq

namespace Mark

def zero : Mark := ⟨0, 0, 0⟩

/-- Whether two places are the same by line and column. -/
def samePlace (a b : Mark) : Bool := a.line == b.line && a.column == b.column

/-- The first character of the first line. -/
def isStart (m : Mark) : Bool := m.samePlace zero

def message (m : Mark) : String :=
  "line " ++ toString (m.line + 1) ++ " column " ++ toString (m.column + 1)

end Mark

/-! ### Characters -/

def isBlank : Option Char → Bool
  | some c => c == ' ' || c == '\t'
  | none => false

/-- A line break: feed, return, next line, line separator or paragraph separator. -/
def isBreak : Option Char → Bool
  | some c => c == '\n' || c == '\r' || c == '\u0085' || c == '\u2028' || c == '\u2029'
  | none => false

/-- A line break or the end of the text. -/
def isBreakOrEnd (c : Option Char) : Bool := isBreak c || c.isNone

/-- A blank, a tab, a line break or the end of the text. -/
def isBlankOrEnd (c : Option Char) : Bool := isBlank c || isBreakOrEnd c

/-- A character of a name: a letter or digit of ASCII, `_` or `-`. -/
def isNameChar : Option Char → Bool
  | some c => c.isAlphanum || c == '_' || c == '-'
  | none => false

/-- Whether a character is one of a list. -/
def isOneOf (cs : List Char) : Option Char → Bool
  | some c => cs.contains c
  | none => false

/-- The text still to be read, and where it starts. -/
structure Source where
  /-- The characters that follow. -/
  rest : List Char
  /-- Where they start. -/
  mark : Mark
  /-- A number above theirs, so that no search among them takes more steps. -/
  bound : Nat

namespace Source

def ofList (cs : List Char) : Source := ⟨cs, .zero, cs.length + 1⟩

def peek (s : Source) : Option Char := s.rest.head?

/-- The character after `n` others. -/
def peekAt (s : Source) (n : Nat) : Option Char := s.rest[n]?

/-- Whether a given character comes next. -/
def at? (s : Source) (c : Char) : Bool := s.peek == some c

/-- Passes over `n` characters of the line. -/
def advance (n : Nat) (s : Source) : Source :=
  let index := s.mark.index + Text.utf8Length (s.rest.take n)
  { s with rest := s.rest.drop n, mark := ⟨index, s.mark.line, s.mark.column + n⟩ }

/-- The characters of the line in front that satisfy a test, and the text behind them. -/
def span (p : Char → Bool) (s : Source) : List Char × Source :=
  let cs := s.rest.takeWhile p
  (cs, s.advance cs.length)

/-- Passes over characters of the line that satisfy a test. -/
def skipWhile (p : Char → Bool) (s : Source) : Source := (s.span p).2

def skipBlanks (s : Source) : Source := s.skipWhile fun c => isBlank (some c)

/-- Passes over the rest of the line, its break not included. -/
def skipToBreak (s : Source) : Source := s.skipWhile fun c => !isBreak (some c)

/-- Passes over a comment, if one starts here. -/
def skipComment (s : Source) : Source := if s.at? '#' then s.skipToBreak else s

/-- A line break and what it stands for in a scalar, if one comes next. A return and a feed are one
break; the breaks of ASCII and the next-line character become a line feed, the separators stay. -/
def lineBreak? (s : Source) : Option (List Char × Source) :=
  let next (n : Nat) : Source :=
    { s with
      rest := s.rest.drop n
      mark := ⟨s.mark.index + Text.utf8Length (s.rest.take n), s.mark.line + 1, 0⟩ }
  match s.rest with
  | '\r' :: '\n' :: _ => some (['\n'], next 2)
  | c :: _ =>
    if c = '\n' || c = '\r' || c = '\u0085' then some (['\n'], next 1)
    else if c = '\u2028' || c = '\u2029' then some ([c], next 1)
    else none
  | [] => none

/-- Passes over a line break, if one comes next. -/
def skipLine (s : Source) : Source := (s.lineBreak?.map Prod.snd).getD s

/-- Whether a document indicator, three of one character, stands at the start of this line. -/
def atIndicator (c : Char) (s : Source) : Bool :=
  s.mark.column == 0 && s.rest.take 3 == [c, c, c] && isBlankOrEnd (s.peekAt 3)

/-- Whether the mark of a document's start or end stands here. -/
def atDocumentIndicator (s : Source) : Bool := s.atIndicator '-' || s.atIndicator '.'

end Source

end DocCheck.Yaml

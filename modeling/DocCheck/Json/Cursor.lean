/-!
# Where reading JSON text stands, and what can be wrong there

A `Cursor` is the text still to be read together with the line it starts on and how many bytes of
that line are behind it. A fault is reported either where the cursor stands or, when the next
character is at fault, one byte further on.

* `JsonFault`, `JsonFault.message` — what can be wrong with a JSON text;
* `JsonError` — a fault and its position;
* `Cursor.next?`, `Cursor.fail`, `Cursor.failAhead` — one step, and the two ways to fail.
-/

namespace DocCheck

/-- What is wrong with a JSON text. -/
inductive JsonFault where
  /-- The text ends inside an array. -/
  | endInList
  /-- The text ends inside an object. -/
  | endInObject
  /-- The text ends inside a string. -/
  | endInString
  /-- The text ends where a value should be. -/
  | endInValue
  /-- A key is not followed by a colon. -/
  | colonExpected
  /-- An item is followed by neither a comma nor the end of the array. -/
  | itemEndExpected
  /-- A member is followed by neither a comma nor the end of the object. -/
  | memberEndExpected
  /-- A literal name is misspelt. -/
  | nameExpected
  /-- No value can start with this character. -/
  | valueExpected
  /-- An escape that JSON does not have. -/
  | invalidEscape
  /-- Not the text of a number. -/
  | invalidNumber
  /-- A number beyond the greatest binary64 number. -/
  | numberOutOfRange
  /-- A control character inside a string. -/
  | controlCharacter
  /-- A member that does not start with a string. -/
  | keyMustBeString
  /-- Half of a surrogate pair. -/
  | loneSurrogate
  /-- A comma before the end of an array or object. -/
  | trailingComma
  /-- Something after the value. -/
  | trailingCharacters
  /-- A first surrogate that no escape follows. -/
  | surrogateCutShort
  /-- Arrays and objects nested too deep. -/
  | tooDeep
  deriving DecidableEq

namespace JsonFault

def message : JsonFault → String
  | endInList => "EOF while parsing a list"
  | endInObject => "EOF while parsing an object"
  | endInString => "EOF while parsing a string"
  | endInValue => "EOF while parsing a value"
  | colonExpected => "expected \x60:\x60"
  | itemEndExpected => "expected \x60,\x60 or \x60]\x60"
  | memberEndExpected => "expected \x60,\x60 or \x60\x7d\x60"
  | nameExpected => "expected ident"
  | valueExpected => "expected value"
  | invalidEscape => "invalid escape"
  | invalidNumber => "invalid number"
  | numberOutOfRange => "number out of range"
  | controlCharacter => "control character (\\u0000-\\u001F) found while parsing a string"
  | keyMustBeString => "key must be a string"
  | loneSurrogate => "lone leading surrogate in hex escape"
  | trailingComma => "trailing comma"
  | trailingCharacters => "trailing characters"
  | surrogateCutShort => "unexpected end of hex escape"
  | tooDeep => "recursion limit exceeded"

end JsonFault

/-- A fault and its position in the text. -/
structure JsonError where
  /-- What is wrong. -/
  fault : JsonFault
  /-- The line, counted from one. -/
  line : Nat
  /-- The bytes of that line up to and with the place of the fault. -/
  column : Nat
  deriving DecidableEq

namespace JsonError

def message (e : JsonError) : String :=
  e.fault.message ++ " at line " ++ toString e.line ++ " column " ++ toString e.column

end JsonError

/-- The text still to be read, and where it starts. -/
structure Cursor where
  /-- The characters that follow. -/
  rest : List Char
  /-- The line, counted from one. -/
  line : Nat
  /-- The bytes of this line that have been read. -/
  column : Nat

namespace Cursor

def ofList (cs : List Char) : Cursor := ⟨cs, 1, 0⟩

def peek? (c : Cursor) : Option Char := c.rest.head?

def next? (c : Cursor) : Option (Char × Cursor) :=
  match c.rest with
  | [] => none
  | ch :: rest =>
    some (ch, if ch = '\n' then ⟨rest, c.line + 1, 0⟩ else ⟨rest, c.line, c.column + ch.utf8Size⟩)

/-- The cursor after the next character, or the same one at the end of the text. -/
def skip (c : Cursor) : Cursor :=
  match c.next? with
  | some (_, c) => c
  | none => c

/-- Line and column after `n` more bytes of a text. -/
def bytesAhead : Nat → List Char → Nat → Nat → Nat × Nat
  | 0, _, line, column => (line, column)
  | _ + 1, [], line, column => (line, column)
  | n + 1, ch :: rest, line, column =>
    if ch = '\n' then bytesAhead n rest (line + 1) 0
    else if n + 1 < ch.utf8Size then (line, column + (n + 1))
    else bytesAhead (n + 1 - ch.utf8Size) rest line (column + ch.utf8Size)
  termination_by _ cs => cs.length

/-- An error `n` bytes ahead. -/
def failAfter {α : Type} (n : Nat) (c : Cursor) (fault : JsonFault) : Except JsonError α :=
  let (line, column) := bytesAhead n c.rest c.line c.column
  .error ⟨fault, line, column⟩

/-- An error where the cursor stands. -/
def fail {α : Type} (c : Cursor) (fault : JsonFault) : Except JsonError α :=
  .error ⟨fault, c.line, c.column⟩

/-- An error at the next character. -/
def failAhead {α : Type} (c : Cursor) (fault : JsonFault) : Except JsonError α :=
  c.failAfter 1 fault

/-- Whether a character may stand between the parts of a JSON text. -/
def isGap (ch : Char) : Bool := ch == ' ' || ch == '\n' || ch == '\t' || ch == '\r'

/-- Reads characters as long as they satisfy a test. -/
def skipWhile (p : Char → Bool) (line column : Nat) : List Char → Cursor
  | [] => ⟨[], line, column⟩
  | ch :: rest =>
    if p ch then
      if ch = '\n' then skipWhile p (line + 1) 0 rest
      else skipWhile p line (column + ch.utf8Size) rest
    else ⟨ch :: rest, line, column⟩

/-- Reads the blanks and line breaks in front. -/
def skipGaps (c : Cursor) : Cursor := skipWhile isGap c.line c.column c.rest

end Cursor

end DocCheck

import DocCheck.Character.Property
import DocCheck.Pattern.Cursor

/-!
# Escapes

A backslash makes a sign stand for itself and gives a letter a meaning: a character, a place, or a
class of characters by a single letter or by a property.

* `PropertyQuery` — a class by a property;
* `Escape`, `Escape.read` — what an escape means.
-/

namespace DocCheck.Pattern

/-- A class of characters by a property. -/
structure PropertyQuery where
  /-- The name of the property. -/
  name : String
  /-- The value that it has to have. -/
  value : Option String
  /-- Whether the other characters are meant. -/
  negated : Bool
  deriving DecidableEq

/-- The characters with the property, if there is such a property. -/
def PropertyQuery.set? (q : PropertyQuery) : Option CharSet :=
  match q.value with
  | none => Character.named? q.name
  | some value => Character.valued? q.name value

/-- What an escape means. -/
inductive Escape where
  /-- A character. -/
  | char (c : Char)
  /-- A class with a property. -/
  | property (query : PropertyQuery)
  /-- A class with a letter of its own; its backslash stands at this place. -/
  | shorthand (letter : Char) (place : Nat)
  /-- A condition on a place. -/
  | place
  /-- The bell, by its letter; the backslash stands at this place. -/
  | bell (place : Nat)
  deriving DecidableEq

namespace Escape

/-- The value of a hexadecimal digit. -/
def hexDigit? (c : Char) : Option Nat :=
  if '0' ≤ c && c ≤ '9' then some (c.toNat - 48)
  else if 'a' ≤ c && c ≤ 'f' then some (c.toNat - 87)
  else if 'A' ≤ c && c ≤ 'F' then some (c.toNat - 55)
  else none

/-- The character with a code point, if there is one. -/
def charAt? (n : Nat) : Option Char :=
  if n < 0xD800 || (0xDFFF < n && n < 0x110000) then some (Char.ofNat n) else none

/-- The character that is meant by a number. -/
def ofNumber (n : Nat) (k : Cursor) : Reading Escape :=
  match charAt? n with
  | some c => .ok (.char c, k)
  | none => .error .malformed

/-- A character by so many hexadecimal digits. -/
def readDigits : Nat → Nat → Cursor → Reading Escape
  | 0, n, k => ofNumber n k
  | count + 1, n, k =>
    match k.peek.bind hexDigit? with
    | some d => readDigits count (16 * n + d) k.step
    | none => .error .malformed

/-- A character by hexadecimal digits up to a brace. -/
def readBraced : Nat → Option Nat → Cursor → Reading Escape
  | 0, _, _ => .error .malformed
  | fuel + 1, n, k =>
    match k.peek, n with
    | some '\x7d', some n => ofNumber n k.step
    | some c, n =>
      match hexDigit? c with
      | some d => readBraced fuel (some (min (16 * n.getD 0 + d) 0x110000)) k.step
      | none => .error .malformed
    | none, _ => .error .malformed

/-- A character by its code point; the cursor is behind the letter. -/
def readCodePoint (count : Nat) (k : Cursor) : Reading Escape :=
  match k.peek with
  | some '\x7b' => readBraced k.rest.length none k.step
  | _ => readDigits count 0 k

def startsWith (cs start : List Char) : Bool := start.isPrefixOf cs

/-- The parts of a text before and behind the first place where another text stands in it. -/
def cutAt? (mark : List Char) : List Char → Option (List Char × List Char)
  | [] => none
  | c :: cs =>
    if startsWith (c :: cs) mark then some ([], (c :: cs).drop mark.length)
    else (cutAt? mark cs).map fun p => (c :: p.1, p.2)

/-- A property by what stands between the braces. -/
def queryOf (negated : Bool) (inside : List Char) : PropertyQuery :=
  let valued (p : List Char × List Char) (negated : Bool) : PropertyQuery :=
    ⟨String.ofList p.1, some (String.ofList p.2), negated⟩
  match cutAt? ['!', '='] inside, cutAt? [':'] inside, cutAt? ['='] inside with
  | some p, _, _ => valued p !negated
  | none, some p, _ | none, none, some p => valued p negated
  | none, none, none => ⟨String.ofList inside, none, negated⟩

/-- The characters up to a brace. -/
def readInside : Nat → List Char → Cursor → Reading (List Char)
  | 0, _, _ => .error .malformed
  | fuel + 1, before, k =>
    match k.peek with
    | some '\x7d' => .ok (before.reverse, k.drop 1)
    | some c => readInside fuel (c :: before) k.step
    | none => .error .malformed

/-- A class with a property; the cursor is behind the letter. -/
def readProperty (negated : Bool) (k : Cursor) : Reading Escape :=
  match k.peek with
  | none | some '\\' => .error .malformed
  | some '\x7b' =>
    match readInside (k.rest.length + 1) [] k.step with
    | .ok (inside, k) => .ok (.property (queryOf negated inside), k)
    | .error e => .error e
  | some c => .ok (.property ⟨c.toString, none, negated⟩, k.step)

/-- Whether a character may stand in the name of an edge of a word. -/
def isEdgeNameChar (c : Char) : Bool := c.isAlpha || c == '-'

/-- The name of an edge of a word; the cursor is at its first character. -/
def readEdgeName : Nat → List Char → Cursor → Reading Escape
  | 0, _, _ => .error .malformed
  | fuel + 1, before, k =>
    match k.peek with
    | some '\x7d' =>
      if ["start", "end", "start-half", "end-half"].contains (String.ofList before.reverse) then
        .ok (.place, k.drop 1)
      else .error .malformed
    | some c =>
      if isEdgeNameChar c then readEdgeName fuel (c :: before) k.step else .error .malformed
    | none => .error .malformed

/-- An edge of a word, which may have a name in braces; the cursor is behind the letter. -/
def readEdge (k : Cursor) : Reading Escape :=
  match k.peek with
  | some '\x7b' =>
    match k.step.peek with
    | none => .error .malformed
    | some c => if isEdgeNameChar c then readEdgeName k.rest.length [] k.step else .ok (.place, k)
  | _ => .ok (.place, k)

/-- Whether a backslash makes a character stand for itself. -/
def isEscapable (c : Char) : Bool :=
  c.toNat < 0x80 && !c.isAlphanum && c != '<' && c != '>'

/-- The characters that a letter stands for. -/
def control? : Char → Option Char
  | 'a' => some '\x07'
  | 'f' => some '\x0c'
  | 't' => some '\t'
  | 'n' => some '\n'
  | 'r' => some '\r'
  | 'v' => some '\x0b'
  | _ => none

/-- What the escape means whose backslash is here. -/
def read (k : Cursor) : Reading Escape :=
  let behind := k.drop 2
  match (k.drop 1).peek with
  | none => .error .malformed
  | some c =>
    if c.isDigit then .error .reference
    else if "dswDSW".toList.contains c then .ok (.shorthand c k.place, behind)
    else
      match c with
      | 'x' => readCodePoint 2 behind.skipSpace
      | 'u' => readCodePoint 4 behind.skipSpace
      | 'U' => readCodePoint 8 behind.skipSpace
      | 'p' => readProperty false behind.skipSpace
      | 'P' => readProperty true behind.skipSpace
      | 'b' => readEdge behind
      | 'A' | 'z' | 'B' | '<' | '>' => .ok (.place, behind)
      | 'a' => .ok (.bell k.place, behind)
      | c =>
        if isEscapable c then .ok (.char c, behind)
        else
          match control? c with
          | some c => .ok (.char c, behind)
          | none => .error (.escape k.place)

end Escape

end DocCheck.Pattern

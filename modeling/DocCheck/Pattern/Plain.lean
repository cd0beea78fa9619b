import DocCheck.Pattern.Bracket

/-!
# Plain patterns

A pattern without looks and without references back is plain. In a plain pattern the classes with a
letter of their own are those of ASCII, so the letter is written out as a bracket expression, and
the letter of the bell is refused. A pattern that looks or refers back is left as it stands,
whatever follows.

* `Plain` — the outline of a plain pattern;
* `Plain.read` — the outline of a text;
* `Plain.prepare?` — a text with its classes written out, unless it is malformed.
-/

namespace DocCheck.Pattern

/-- The outline of a plain pattern. -/
inductive Plain where
  /-- A character, a place or a class with a property. -/
  | leaf
  /-- A change of style up to the end of the group around it. -/
  | change
  /-- A class with a letter of its own; its backslash stands at this place. -/
  | shorthand (letter : Char) (place : Nat)
  /-- The bell, by its letter; the backslash stands at this place. -/
  | bell (place : Nat)
  /-- A bracket expression. -/
  | bracket (inside : Bracket)
  /-- A repetition. -/
  | repeated (part : Plain)
  /-- A group. -/
  | group (part : Plain)
  /-- Alternatives. -/
  | alternatives (parts : List Plain)
  /-- Parts in a row. -/
  | sequence (parts : List Plain)

namespace Plain

/-! ### Repetitions -/

def greatestCount : Nat := 4294967295

/-- The digits of a number, with what says nothing behind each. -/
def readCountDigits : Nat → Option Nat → Cursor → Option Nat × Cursor
  | 0, n, k => (n, k)
  | fuel + 1, n, k =>
    match k.peek with
    | some c =>
      if c.isDigit then
        let n := min (10 * n.getD 0 + (c.toNat - 48)) (greatestCount + 1)
        readCountDigits fuel (some n) k.step
      else (n, k)
    | none => (n, k)

/-- Behind white space, wherever it stands. -/
def skipBlanks (k : Cursor) : Cursor :=
  (k.drop (k.rest.takeWhile Text.isBlank).length).skipSpace

/-- A number with white space around it; nothing if there is no digit. -/
def readCount (k : Cursor) : Reading (Option Nat) :=
  let k := k.drop (k.rest.takeWhile Text.isBlank).length
  let (n, k) := readCountDigits (k.rest.length + 1) none k
  let k := if k.peek.any Text.isBlank then skipBlanks k else k
  if n.any (greatestCount < ·) then .error .malformed else .ok (n, k)

/-- The limits of a repetition; the cursor is at the brace. -/
def readLimits (k : Cursor) : Except Refusal Cursor :=
  match readCount k.step with
  | .error e => .error e
  | .ok (least, k) =>
    match least, k.peek with
    | some _, some '\x7d' => .ok k.step
    | some least, some ',' =>
      let k := k.step
      match k.peek with
      | some '\x7d' => .ok k.step
      | _ =>
        match readCount k with
        | .error e => .error e
        | .ok (most, k) =>
          match most, k.peek with
          | some most, some '\x7d' => if least ≤ most then .ok k.step else .error .malformed
          | _, _ => .error .malformed
    | _, _ => .error .malformed

/-- Behind a sign that says which piece is preferred. -/
def skipPreference (k : Cursor) : Cursor := if k.peek == some '?' then k.drop 1 else k

/-- Behind the sign of a repetition that is here, if there is one. -/
def readRepetition? (k : Cursor) : Option (Except Refusal Cursor) :=
  match k.peek with
  | some '*' | some '+' | some '?' => some (.ok (skipPreference (k.drop 1)))
  | some '\x7b' => some ((readLimits k).map skipPreference)
  | _ => none

/-- The parts with the last one repeated. Only what can match may be repeated. -/
def repeatLast : List Plain → Except Refusal (List Plain)
  | [] | change :: _ => .error .malformed
  | part :: parts => .ok (repeated part :: parts)

/-! ### Groups -/

/-- Whether a character may stand in the name of a group. -/
def isNameChar (first : Bool) (c : Char) : Bool :=
  c == '_' || (if first then Character.alphabetic.mem c
    else c == '.' || c == '[' || c == ']' || Character.alphanumeric.mem c)

/-- The name of a group up to the closing bracket. No two groups have one name. -/
def readName (k : Cursor) : Except Refusal Cursor :=
  let name := k.rest.takeWhile (· != '>')
  let text := String.ofList name
  match name, k.rest.drop name.length with
  | c :: cs, _ :: _ =>
    if isNameChar true c && cs.all (isNameChar false) && !k.names.contains text then
      .ok { k.drop (name.length + 1) with names := text :: k.names }
    else .error .malformed
  | _, _ => .error .malformed

/-- How the opening of a group goes on. -/
inductive Opening where
  /-- With the parts of the group. -/
  | group
  /-- The group says only how to go on. -/
  | change
  deriving DecidableEq

/-- The letters that change the style, up to a colon or parenthesis. Each stands once at most; those
behind the hyphen are switched off. -/
def readLetters : Nat → List Char → Cursor → Reading (Opening × List Char)
  | 0, _, _ => .error .malformed
  | fuel + 1, before, k =>
    match k.peek with
    | some ':' =>
      if before.head? == some '-' then .error .malformed else .ok ((.group, before), k.drop 1)
    | some ')' =>
      if before.head? == some '-' || before.isEmpty then .error .malformed
      else .ok ((.change, before), k.drop 1)
    | some c =>
      if "imsUuRx-".toList.contains c && !before.contains c then
        readLetters fuel (c :: before) (k.drop 1)
      else .error .malformed
    | none => .error .malformed

/-- The style of blanks behind some letters, the last of which comes first. -/
def spacedBy (before : List Char) (spaced : Bool) : Bool :=
  if before.contains 'x' then !((before.dropWhile (· != 'x')).contains '-') else spaced

/-- The opening of a group, whose parenthesis is here. -/
def readOpening (k : Cursor) : Reading Opening :=
  let k := (k.drop 1).skipSpace
  if ["?=", "?!", "?<=", "?<!"].any fun sign => (k.behind? sign).isSome then .error .look
  else
    match (k.behind? "?P<").or (k.behind? "?<"), k.behind? "?" with
    | some k, _ => (readName k).map fun k => (.group, k)
    | none, none => .ok (.group, k)
    | none, some k =>
      match readLetters (k.rest.length + 1) [] k with
      | .error e => .error e
      | .ok ((opening, letters), k) =>
        .ok (opening, { k with spaced := spacedBy letters k.spaced })

/-! ### Outlines -/

/-- Parts in a row as one outline; they are in reverse. -/
def ofParts : List Plain → Plain
  | [] => leaf
  | [part] => part
  | parts => sequence parts.reverse

/-- An escape as a part of a pattern. -/
def ofEscape : Escape → Plain
  | .shorthand letter place => shorthand letter place
  | .bell place => bell place
  | _ => leaf

/-- What stands at one place and is neither a group nor a repetition. -/
def readPart (k : Cursor) : Reading Plain :=
  match k.peek with
  | some '[' => (Bracket.read k).map fun r => (bracket r.1, r.2)
  | some '\\' => (Escape.read k).map fun r => (ofEscape r.1, r.2)
  | _ => .ok (leaf, k.drop 1)

mutual

/-- Alternatives up to the end of the group, behind those already read. -/
def readAlternatives : Nat → List Plain → Cursor → Reading Plain
  | 0, _, _ => .error .malformed
  | fuel + 1, before, k =>
    match readSequence fuel [] k with
    | .error e => .error e
    | .ok (part, k) =>
      if k.peek == some '|' then readAlternatives fuel (part :: before) (k.drop 1)
      else if before.isEmpty then .ok (part, k)
      else .ok (alternatives (part :: before).reverse, k)

/-- Parts in a row up to a bar or the end of the group, behind those already read. -/
def readSequence : Nat → List Plain → Cursor → Reading Plain
  | 0, _, _ => .error .malformed
  | fuel + 1, parts, k =>
    let k := k.skipSpace
    match k.peek, readRepetition? k with
    | none, _ | some ')', _ | some '|', _ => .ok (ofParts parts, k)
    | _, some (.error e) => .error e
    | _, some (.ok k) =>
      match repeatLast parts with
      | .error e => .error e
      | .ok parts => readSequence fuel parts k
    | some '(', none =>
      match readOpening k with
      | .error e => .error e
      | .ok (.change, k) => readSequence fuel (change :: parts) k
      | .ok (.group, inner) =>
        match readAlternatives fuel [] inner with
        | .error e => .error e
        | .ok (part, behind) =>
          if behind.peek == some ')' then
            readSequence fuel (group part :: parts) { behind.drop 1 with spaced := k.spaced }
          else .error .malformed
    | _, none =>
      match readPart k with
      | .error e => .error e
      | .ok (part, k) => readSequence fuel (part :: parts) k

end

mutual

/-- How deep parts stand in one another. -/
def depth : Plain → Nat
  | leaf | change | shorthand _ _ | bell _ => 0
  | bracket inside => inside.depth + 1
  | repeated part | group part => part.depth + 1
  | alternatives parts | sequence parts => depths parts + 1
  termination_by structural p => p

/-- The greatest depth of some parts. -/
def depths : List Plain → Nat
  | [] => 0
  | p :: ps => max p.depth (depths ps)
  termination_by structural ps => ps

end

mutual

/-- The classes with letters of their own, and the bell: the letters and the places of their
backslashes. -/
def shorthands : Plain → List (Char × Nat)
  | leaf | change => []
  | shorthand letter place => [(letter, place)]
  | bell place => [('a', place)]
  | bracket inside => inside.shorthands
  | repeated part | group part => part.shorthands
  | alternatives parts | sequence parts => shorthandsOfAll parts
  termination_by structural p => p

/-- The classes with letters of their own in some parts. -/
def shorthandsOfAll : List Plain → List (Char × Nat)
  | [] => []
  | p :: ps => p.shorthands ++ shorthandsOfAll ps
  termination_by structural ps => ps

end

/-- How deep parts may stand in one another. -/
def greatestDepth : Nat := 250

def read (text : List Char) : Except Refusal Plain :=
  match readAlternatives (3 * text.length + 3) [] (.start text) with
  | .error e => .error e
  | .ok (p, k) => if k.rest.isEmpty && p.depth ≤ greatestDepth then .ok p else .error .malformed

/-! ### Classes of ASCII -/

/-- What a class with a letter of its own is written out as. -/
def writtenOut (letter : Char) : List Char :=
  let inside :=
    match letter.toLower with
    | 'd' => "0-9".toList
    | 'w' => "A-Za-z0-9_".toList
    | _ => " \t\n\r\x0b\x0c\u2003\ufeff\u2029\u00a0".toList
  '[' :: ((if letter.isUpper then ['^'] else []) ++ inside ++ [']'])

/-- A text from a place on, with classes at later places written out. -/
def writeOut (place : Nat) : List (Char × Nat) → List Char → List Char
  | [], text => text
  | (letter, p) :: more, text =>
    text.take (p - place) ++ writtenOut letter
      ++ writeOut (p + 2) more (text.drop (p - place + 2))

/-- A text with the escape at a place, which is a letter for a control character, written out. -/
def writeControl? (text : List Char) (place : Nat) : Option (List Char) :=
  match text.drop place with
  | _ :: 'c' :: letter :: rest =>
    if letter.isAlpha then some (text.take place ++ Char.ofNat (letter.toNat % 32) :: rest)
    else none
  | _ => none

/-- A text with its classes and control characters written out, unless it is malformed. -/
def prepare : Nat → List Char → Option (List Char)
  | 0, _ => none
  | fuel + 1, text =>
    match read text with
    | .ok p =>
      if p.shorthands.any fun s => s.1 == 'a' then none else some (writeOut 0 p.shorthands text)
    | .error .look | .error .reference => some text
    | .error (.escape place) => (writeControl? text place).bind (prepare fuel)
    | .error .malformed => none

/-- A text with its classes and control characters written out, unless it is malformed. -/
def prepare? (text : String) : Option (List Char) := prepare (text.length + 1) text.toList

end Plain

end DocCheck.Pattern

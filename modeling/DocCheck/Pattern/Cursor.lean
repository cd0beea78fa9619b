import DocCheck.Text.Blank

/-!
# Reading the text of a pattern

A cursor is a place in the text of a pattern, with what the text before it says about how to go on.

* `Cursor` — the places;
* `Cursor.skipSpace`, `Cursor.step` — past blanks and comments, and to the next character;
* `Refusal` — why a text is no plain pattern.
-/

namespace DocCheck.Pattern

/-- Why a text is no plain pattern. -/
inductive Refusal where
  /-- It looks ahead or behind. -/
  | look
  /-- It refers back to a group. -/
  | reference
  /-- A backslash at this place makes no sense with the character behind it. -/
  | escape (place : Nat)
  /-- It is malformed in another way. -/
  | malformed
  deriving DecidableEq

/-- A place in the text of a pattern. -/
structure Cursor where
  /-- The characters from here on. -/
  rest : List Char
  /-- The number of characters before. -/
  place : Nat
  /-- Whether blanks and comments say nothing here. -/
  spaced : Bool
  /-- The names of the groups before. -/
  names : List String

/-- What reading a part of a plain pattern gives: the part and the place behind it. -/
abbrev Reading (α : Type) := Except Refusal (α × Cursor)

namespace Cursor

def start (text : List Char) : Cursor := ⟨text, 0, false, []⟩

/-- The character here, if this is not the end. -/
def peek (k : Cursor) : Option Char := k.rest.head?

def drop (k : Cursor) (n : Nat) : Cursor := { k with rest := k.rest.drop n, place := k.place + n }

/-- Behind a text, if it stands here. -/
def behind? (k : Cursor) (text : String) : Option Cursor :=
  if text.toList.isPrefixOf k.rest then some (k.drop text.length) else none

/-- The number of characters at the start of a text that are blanks or in comments. A comment goes
from a number sign to the end of the line. -/
def blankLength (inComment : Bool) : List Char → Nat
  | [] => 0
  | c :: cs =>
    if inComment then blankLength (c != '\n') cs + 1
    else if Text.isBlank c then blankLength false cs + 1
    else if c == '#' then blankLength true cs + 1
    else 0

/-- Behind the blanks and comments here, where they say nothing. -/
def skipSpace (k : Cursor) : Cursor :=
  if k.spaced then k.drop (blankLength false k.rest) else k

/-- Behind the character here, and what says nothing behind it. -/
def step (k : Cursor) : Cursor := (k.drop 1).skipSpace

/-- The character behind the one here. Where blanks say nothing they are passed over, and a number
sign with them. -/
def peekBehind (k : Cursor) : Option Char :=
  let tail := k.rest.drop 1
  if !k.spaced then tail.head?
  else
    match tail.dropWhile Text.isBlank with
    | '#' :: more => (more.dropWhile Text.isBlank).head?.or tail.head?
    | c :: _ => some c
    | [] => tail.head?

end Cursor

end DocCheck.Pattern

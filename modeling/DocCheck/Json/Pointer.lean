import DocCheck.Json.Basic
import DocCheck.Path

/-!
# JSON pointers

A pointer is a text that leads to a place in a JSON value: for each step a slash and the key of a
member or the index of an item. Inside a step a slash is written `~1` and a tilde `~0`.

* `Json.Step` — one step into a value;
* `Json.Pointer.render` — the pointer of a list of steps;
* `Json.Pointer.segments` — the steps of a pointer as texts, unescaped;
* `Json.Pointer.toIndex?` — an index from its text.
-/

namespace DocCheck.Json

/-- One step into a value. -/
inductive Step where
  /-- To the member with this key. -/
  | key (name : String)
  /-- To the item with this index, counted from zero. -/
  | index (i : Nat)
  deriving DecidableEq

namespace Pointer

def escapeChar (c : Char) : List Char :=
  if c = '~' then ['~', '0'] else if c = '/' then ['~', '1'] else [c]

/-- A key as it stands in a pointer. -/
def escape (key : List Char) : List Char := key.flatMap escapeChar

def segment : Step → List Char
  | .key name => escape name.toList
  | .index i => (toString i).toList

/-- The pointer of a list of steps, as a list of characters. -/
def chars (steps : List Step) : List Char := steps.flatMap fun s => '/' :: segment s

/-- The pointer of a list of steps. -/
def render (steps : List Step) : String := String.ofList (chars steps)

/-- Replaces each pair `~d` by one character. -/
def replaceTilde (d replacement : Char) : List Char → List Char
  | '~' :: c :: rest =>
    if c = d then replacement :: replaceTilde d replacement rest
    else '~' :: replaceTilde d replacement (c :: rest)
  | c :: rest => c :: replaceTilde d replacement rest
  | [] => []

/-- The key that a step stands for: first `~1` becomes a slash, then `~0` a tilde. -/
def unescape (segment : List Char) : List Char :=
  replaceTilde '0' '~' (replaceTilde '1' '/' segment)

/-- The key that a step of a reference stands for. Its pairs are read from left to right, and a
tilde with any other character stands for both. -/
def unescapePairs : List Char → List Char
  | '~' :: '1' :: rest => '/' :: unescapePairs rest
  | '~' :: '0' :: rest => '~' :: unescapePairs rest
  | '~' :: c :: rest => '~' :: c :: unescapePairs rest
  | c :: rest => c :: unescapePairs rest
  | [] => []

/-- The steps of a pointer as texts, still escaped. What is before the first slash is no step. -/
def rawSegments (pointer : List Char) : List (List Char) := (Path.segments '/' pointer).drop 1

/-- The steps of a pointer as texts. -/
def segments (pointer : String) : List (List Char) := (rawSegments pointer.toList).map unescape

/-- The value of a list of decimal digits. -/
def digitsValue? : List Char → Nat → Option Nat
  | [], n => some n
  | c :: cs, n =>
    if '0' ≤ c && c ≤ '9' then digitsValue? cs (10 * n + (c.toNat - 48)) else none

/-- The index that a text stands for: decimal digits, with a plus sign in front if one likes. -/
def toIndex? (segment : List Char) : Option Nat :=
  let digits := if segment.head? == some '+' then segment.drop 1 else segment
  if digits.isEmpty then none
  else (digitsValue? digits 0).filter (· < Nat.pow 2 64)

end Pointer

end DocCheck.Json

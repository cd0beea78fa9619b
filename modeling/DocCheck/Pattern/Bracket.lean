import DocCheck.Character.Fold
import DocCheck.Pattern.Escape

/-!
# Bracket expressions

What stands between brackets describes a set of characters: characters, ranges, classes and further
bracket expressions, joined by the operations on sets.

* `Bracket` — the expressions;
* `Bracket.read` — the expression at a place of a pattern;
* `Bracket.set?` — the set that it describes.
-/

namespace DocCheck.Pattern

/-- An operation on two sets. -/
inductive SetOperation where
  /-- The common members. -/
  | inter
  /-- The members of the first that are not in the second. -/
  | diff
  /-- The members of exactly one. -/
  | symmDiff
  deriving DecidableEq

/-- The set that an operation makes of two. -/
def SetOperation.apply : SetOperation → CharSet → CharSet → CharSet
  | inter => CharSet.inter
  | diff => CharSet.diff
  | symmDiff => CharSet.symmDiff

/-- A part of a bracket expression. -/
inductive Bracket where
  /-- The characters between two, both included. -/
  | range (first last : Char)
  /-- A class of ASCII characters, or all others. -/
  | ascii (set : CharSet) (negated : Bool)
  /-- A class with a letter of its own; its backslash stands at this place. -/
  | shorthand (letter : Char) (place : Nat)
  /-- A class with a property. -/
  | property (query : PropertyQuery)
  /-- What stands between brackets, or all other characters. -/
  | nested (negated : Bool) (inside : Bracket)
  /-- All of some parts together. -/
  | items (parts : List Bracket)
  /-- An operation on two sets. -/
  | combined (operation : SetOperation) (first second : Bracket)

namespace Bracket

/-- The classes of ASCII characters that have names. -/
def asciiClass? (name : String) : Option CharSet :=
  let lower := CharSet.range 'a' 'z'
  let upper := CharSet.range 'A' 'Z'
  let digit := CharSet.digit
  match name with
  | "alnum" => some (.unions [lower, upper, digit])
  | "alpha" => some (.unions [lower, upper])
  | "ascii" => some (.range '\x00' '\x7f')
  | "blank" => some (.unions [.single ' ', .single '\t'])
  | "cntrl" => some (.unions [.range '\x00' '\x1f', .single '\x7f'])
  | "digit" => some digit
  | "graph" => some (.range '!' '~')
  | "lower" => some lower
  | "print" => some (.range ' ' '~')
  | "punct" =>
    some (.unions [.range '!' '/', .range ':' '@', .range '[' '\x60', .range '\x7b' '~'])
  | "space" => some (.unions [.range '\t' '\r', .single ' '])
  | "upper" => some upper
  | "word" => some .word
  | "xdigit" => some (.unions [digit, .range 'a' 'f', .range 'A' 'F'])
  | _ => none

/-- The class of ASCII characters whose opening bracket is here, if it is one. -/
def readAscii? (k : Cursor) : Option (Bracket × Cursor) :=
  match k.rest with
  | '[' :: ':' :: rest =>
    let negated := rest.head? == some '^'
    let rest := if negated then rest.drop 1 else rest
    let name := rest.takeWhile (· != ':')
    let length := (if negated then 3 else 2) + name.length + 2
    match rest.drop name.length with
    | ':' :: ']' :: _ =>
      (asciiClass? (String.ofList name)).map fun s => (.ascii s negated, k.drop length)
    | _ => none
  | _ => none

def readItem (k : Cursor) : Reading Escape :=
  match k.peek with
  | none => .error .malformed
  | some '\\' => Escape.read k
  | some c => .ok (.char c, k.drop 1)

/-- An escape as a part of a bracket expression. -/
def ofEscape : Escape → Except Refusal Bracket
  | .char c => .ok (.range c c)
  | .property q => .ok (.property q)
  | .shorthand l p => .ok (.shorthand l p)
  | .bell _ => .ok (.range '\x07' '\x07')
  | .place => .error .malformed

/-- A character, a range or a class. -/
def readRange (k : Cursor) : Reading Bracket :=
  match readItem k with
  | .error e => .error e
  | .ok (first, k) =>
    let k := k.skipSpace
    match k.peek with
    | none => .error .malformed
    | some c =>
      if c != '-' || k.peekBehind == some ']' || k.peekBehind == some '-' then
        (ofEscape first).map fun b => (b, k)
      else
        match readItem k.step with
        | .error e => .error e
        | .ok (last, k) =>
          match ofEscape first, ofEscape last with
          | .ok (.range a _), .ok (.range b _) =>
            if a ≤ b then .ok (.range a b, k) else .error .malformed
          | _, _ => .error .malformed

/-- The operation whose two signs are here. -/
def operation? (k : Cursor) : Option SetOperation :=
  match k.rest with
  | '&' :: '&' :: _ => some .inter
  | '-' :: '-' :: _ => some .diff
  | '~' :: '~' :: _ => some .symmDiff
  | _ => none

/-- Parts as one expression; they are in reverse. -/
def ofParts : List Bracket → Bracket
  | [part] => part
  | parts => .items parts.reverse

/-- Parts with the operation before them, if there is one. -/
def close (before : Option (SetOperation × Bracket)) (parts : List Bracket) : Bracket :=
  match before with
  | none => ofParts parts
  | some (operation, first) => .combined operation first (ofParts parts)

/-- The hyphens that stand for themselves because nothing is before them. -/
def readHyphens : Nat → List Bracket → Cursor → Reading (List Bracket)
  | 0, _, _ => .error .malformed
  | fuel + 1, parts, k =>
    match k.peek with
    | none => .error .malformed
    | some '-' => readHyphens fuel (.range '-' '-' :: parts) k.step
    | _ => .ok (parts, k)

/-- What stands at the start of a bracket expression: a sign that negates it, and characters that
stand for themselves only there. -/
def readStart (k : Cursor) : Reading (Bool × List Bracket) :=
  let k := k.step
  let negated := k.peek == some '^'
  let k := if negated then k.step else k
  match readHyphens (k.rest.length + 1) [] k with
  | .error e => .error e
  | .ok ([], k) =>
    if k.peek == some ']' then
      if k.step.rest.isEmpty then .error .malformed
      else .ok ((negated, [.range ']' ']']), k.step)
    else .ok ((negated, []), k)
  | .ok (parts, k) => .ok ((negated, parts), k)

mutual

/-- The bracket expression whose opening bracket is here. -/
def readNested : Nat → Cursor → Reading Bracket
  | 0, _ => .error .malformed
  | fuel + 1, k =>
    match readStart k with
    | .error e => .error e
    | .ok ((negated, parts), k) =>
      match readParts fuel none parts k with
      | .error e => .error e
      | .ok (inside, k) => .ok (.nested negated inside, k)

/-- The parts up to the closing bracket, behind those already read. -/
def readParts : Nat → Option (SetOperation × Bracket) → List Bracket → Cursor → Reading Bracket
  | 0, _, _, _ => .error .malformed
  | fuel + 1, before, parts, k =>
    let k := k.skipSpace
    match k.peek, operation? k with
    | none, _ => .error .malformed
    | _, some operation => readParts fuel (some (operation, close before parts)) [] (k.drop 2)
    | some ']', _ => .ok (close before parts, k.drop 1)
    | some '[', _ =>
      match readAscii? k with
      | some (part, k) => readParts fuel before (part :: parts) k
      | none =>
        match readNested fuel k with
        | .error e => .error e
        | .ok (part, k) => readParts fuel before (part :: parts) k
    | _, _ =>
      match readRange k with
      | .error e => .error e
      | .ok (part, k) => readParts fuel before (part :: parts) k

end

/-- The bracket expression whose opening bracket is here. -/
def read (k : Cursor) : Reading Bracket := readNested (2 * k.rest.length + 1) k

/-! ### Meaning -/

/-- The class of all scripts that a letter stands for. -/
def shorthandSet (letter : Char) : CharSet :=
  match letter with
  | 'd' => Character.decimal
  | 'D' => Character.decimal.compl
  | 's' => Character.space
  | 'S' => Character.space.compl
  | 'w' => Character.word
  | _ => Character.word.compl

/-- A set with its variants if letters stand for either case, and the other characters if those are
meant. -/
def foldAndNegate (caseless negated : Bool) (s : CharSet) : CharSet :=
  let s := if caseless then s.fold else s
  if negated then s.compl else s

mutual

/-- The set of characters that an expression describes, unless it names a property that is none. -/
def set? (caseless : Bool) : Bracket → Option CharSet
  | .range a b => some (.range a b)
  | .ascii s negated => some (foldAndNegate caseless negated s)
  | .shorthand letter _ => some (shorthandSet letter)
  | .property q => q.set?.map (foldAndNegate caseless q.negated)
  | .nested negated inside => (set? caseless inside).map (foldAndNegate caseless negated)
  | .items parts => (sets? caseless parts).map CharSet.unions
  | .combined operation a b =>
    match set? caseless a, set? caseless b with
    | some s, some t =>
      some (operation.apply (foldAndNegate caseless false s) (foldAndNegate caseless false t))
    | _, _ => none
  termination_by structural b => b

def sets? (caseless : Bool) : List Bracket → Option (List CharSet)
  | [] => some []
  | b :: bs =>
    match set? caseless b, sets? caseless bs with
    | some s, some ss => some (s :: ss)
    | _, _ => none
  termination_by structural bs => bs

end

mutual

/-- How deep parts stand in one another. -/
def depth : Bracket → Nat
  | .nested _ inside => inside.depth + 1
  | .items parts => if parts.isEmpty then 0 else depths parts + 1
  | .combined _ a b => max a.depth b.depth + 1
  | _ => 0
  termination_by structural b => b

/-- The greatest depth of some parts. -/
def depths : List Bracket → Nat
  | [] => 0
  | b :: bs => max b.depth (depths bs)
  termination_by structural bs => bs

end

mutual

/-- The classes with letters of their own: the letters and the places of their backslashes. -/
def shorthands : Bracket → List (Char × Nat)
  | .shorthand letter place => [(letter, place)]
  | .nested _ inside => inside.shorthands
  | .items parts => shorthandsOfAll parts
  | .combined _ a b => a.shorthands ++ b.shorthands
  | _ => []
  termination_by structural b => b

/-- The classes with letters of their own in some parts. -/
def shorthandsOfAll : List Bracket → List (Char × Nat)
  | [] => []
  | b :: bs => b.shorthands ++ shorthandsOfAll bs
  termination_by structural bs => bs

end

end Bracket

end DocCheck.Pattern

import DocCheck.Character.Property
import DocCheck.Event
import DocCheck.Pattern.Plain
import DocCheck.Text.Utf8

/-!
# Directives of a log filter

A directive is a level, in the form `target[span\{field=value}]=level`. All parts are optional, but
one of them stands in front. A directive is for the parts of the program whose names start with its
target; between brackets it may ask for a stretch of time of some name, and for a field.

* `Log.Directive` — the directives;
* `Log.Directive.parse` — the directive of a text.
-/

namespace DocCheck.Log

/-- A level for some events. Rank 0 shows nothing. -/
structure Directive where
  /-- The start of the names of the parts that the events come from. -/
  target : Option String
  /-- The name of a stretch of time in which the events have to be. -/
  span : Option String
  /-- The name of a field that they have to have. -/
  field : Option String
  /-- Whether the field has to have some value. -/
  valued : Bool
  /-- The rank of the least important level that is shown. -/
  rank : Nat
  deriving DecidableEq

/-- The number of an unsigned integer's digits, which may stand behind a plus sign. -/
def number? (cs : List Char) : Option Nat :=
  let digits := if cs.head? == some '+' then cs.drop 1 else cs
  if digits.isEmpty || !digits.all Char.isDigit then none
  else some (digits.foldl (fun n c => 10 * n + (c.toNat - 48)) 0)

/-- The rank that a word or a number names. -/
def rank? (cs : List Char) : Option Nat :=
  match number? cs with
  | some n => if n ≤ Level.trace.rank then some n else none
  | none =>
    let upper := String.ofList (cs.map Char.toUpper)
    if upper == "OFF" then some 0
    else (Level.all.find? fun l => l.name == upper).map Level.rank

/-! ### Reading -/

/-- Where reading a directive stands; some parts remember where they started. -/
inductive Progress where
  /-- In front. -/
  | front
  /-- In a word that is a level or a target. -/
  | word (start : Nat)
  /-- In the name behind an opening bracket. -/
  | span (start : Nat)
  /-- In a field behind an opening brace. -/
  | field (start : Nat)
  /-- Behind a closing brace. -/
  | fields
  /-- Behind a closing bracket. -/
  | behind
  /-- In a level behind an equals sign. -/
  | level (start : Nat)

namespace Directive

def everything : Directive := ⟨none, none, none, false, Level.trace.rank⟩

/-- The part of a text between two places, counted in bytes. -/
def slice (text : List Char) (first last : Nat) : List Char :=
  (text.take (Text.takeBytes last text).length).drop (Text.takeBytes first text).length

/-- Whether a directive may start with a character. -/
def isFront (c : Char) : Bool :=
  c == '-' || c == ':' || c == '_' || Character.alphanumeric.mem c

/-- Whether a text is a value that a field may have to have: a number or a plain pattern. -/
def isValue (cs : List Char) : Bool :=
  (number? cs).isSome || (Pattern.Plain.read cs).toOption.isSome

/-- Adds a field, and the value that it has to have if there is one. A second equals sign ends the
value. -/
def addField (cs : List Char) (d : Directive) : Option Directive :=
  let name := cs.takeWhile (· != '=')
  let value? := (cs.drop name.length).tail?.map fun rest => rest.takeWhile (· != '=')
  if cs.isEmpty || !value?.all isValue then none
  else some { d with field := some (String.ofList name), valued := value?.isSome }

/-- Passes a character that stands at a place. -/
def pass (text : List Char) (place : Nat) (c : Char) : Progress → Directive →
    Option (Progress × Directive)
  | .front, d =>
    if c == '[' then some (.span (place + 1), d)
    else if isFront c then some (.word place, d)
    else none
  | .word start, d =>
    let named := { d with target := some (String.ofList (slice text start place)) }
    if c == '=' then some (.level (place + 1), named)
    else if c == '[' then some (.span (place + 1), named)
    else some (.word start, d)
  | .span start, d =>
    let name := slice text start place
    if c == ']' then some (.behind, { d with span := some (String.ofList name) })
    else if c == '\x7b' then
      let span := if name.isEmpty then none else some (String.ofList name)
      some (.field (place + 1), { d with span := span })
    else some (.span start, d)
  | .field start, d =>
    if c == '\x7d' then (d.addField (slice text start place)).map fun d => (.fields, d)
    else some (.field start, d)
  | .fields, d => if c == ']' then some (.behind, d) else none
  | .behind, d => if c == '=' then some (.level (place + 1), d) else none
  | .level start, d => some (.level start, d)

/-- Passes the characters of a text, the first of which stands at a place. -/
def passAll (text : List Char) (place : Nat) : List Char → Progress → Directive →
    Option (Progress × Directive)
  | [], p, d => some (p, d)
  | c :: cs, p, d =>
    match pass text place c p d with
    | some (p, d) => passAll text (place + c.utf8Size) cs p d
    | none => none

/-- The directive when all of a text has been passed. What is not closed says nothing. -/
def finish (text : List Char) : Progress → Directive → Option Directive
  | .word start, d =>
    let word := Text.dropBytes start text
    if word.isEmpty then some d
    else
      match rank? word with
      | some r => some { d with rank := r }
      | none => some { d with target := some (String.ofList word) }
  | .level start, d =>
    let word := Text.dropBytes start text
    if word.isEmpty then some d else (rank? word).map fun r => { d with rank := r }
  | _, d => some d

/-- The directive of a text. White space at its ends is not looked at, but its parts are cut out of
the text as if that had not been there in front. -/
def parse (text : List Char) : Option Directive :=
  (passAll text 0 (Text.trimBlanks text) .front everything).bind fun p => finish text p.1 p.2

/-! ### Use -/

/-- Whether a directive can be for events as such. Stretches of time and values are never asked of
them. -/
def isForEvents (d : Directive) : Bool := d.span.isNone && !d.valued

/-- Whether a directive is for an event. -/
def isFor (d : Directive) (e : Event) : Bool :=
  d.target.all (fun t => t.toList.isPrefixOf e.part.name.toList)
    && d.field.all fun f => e.fieldNames.contains f

/-- Whether the second of two directives for one event counts. It does if its target is longer, or
as long and it asks for a field while the first asks for none, or for one that comes later or is the
same. -/
def yieldsTo (d other : Directive) : Bool :=
  let length (d : Directive) := (d.target.getD "").utf8ByteSize
  length d < length other
    || (length d == length other
      && match d.field, other.field with
        | some f, some g => f ≤ g
        | some _, none => false
        | none, _ => true)

end Directive

end DocCheck.Log

import DocCheck.Json.Pointer
import DocCheck.Json.Printer
import DocCheck.Pattern.Machine
import DocCheck.Text.Utf8

/-!
# Faults

A fault is one place where a value does not do what a schema asks: the way to it in the value, the
keywords on the way to it in the schema, and the cause.

* `TypeName` — the types that a schema can ask for;
* `Cause`, `Cause.message` — what is wrong, and its wording;
* `Fault` — a cause and where it was found.
-/

namespace DocCheck.Schema

/-- The types that a schema can ask for. -/
inductive TypeName where
  | array
  | boolean
  | integer
  | null
  | number
  | object
  | string
  deriving DecidableEq

namespace TypeName

/-- Every type, in the order of messages. -/
def all : List TypeName := [array, boolean, integer, null, number, object, string]

def name : TypeName → String
  | array => "array"
  | boolean => "boolean"
  | integer => "integer"
  | null => "null"
  | number => "number"
  | object => "object"
  | string => "string"

def ofName? (name : String) : Option TypeName := all.find? fun t => t.name == name

end TypeName

/-- What can be counted in a value. -/
inductive Measure where
  | characters
  | items
  | members
  deriving DecidableEq

namespace Measure

/-- So many of what is counted, in words. -/
def amount (m : Measure) (n : Nat) : String :=
  let noun :=
    match m with
    | characters => if n = 1 then "character" else "characters"
    | items => if n = 1 then "item" else "items"
    | members => if n = 1 then "property" else "properties"
  toString n ++ " " ++ noun

/-- How many there are in a value, if they can be counted in it. -/
def count? : Measure → Json → Option Nat
  | characters, .str s => some s.length
  | items, .arr xs => some xs.length
  | members, .obj ms => some ms.length
  | _, _ => none

end Measure

/-- What is wrong with a value. -/
inductive Cause where
  /-- Items beyond those that the schema lists. -/
  | additionalItems (items : List Json)
  /-- Members that the schema does not list. -/
  | additionalProperties (names : List String)
  /-- No alternative matches. -/
  | noAlternative (keyword : String)
  /-- More than one alternative matches where one has to. -/
  | manyAlternatives
  /-- Another value was expected. -/
  | notEqual (expected : Json)
  /-- Too few or too many items match. -/
  | contains
  /-- The text is not in this encoding. -/
  | encoding (name : String)
  /-- The bytes that the text encodes are no text. -/
  | notText (fault : Text.Utf8Fault)
  /-- The text is not of this media type. -/
  | mediaType (name : String)
  /-- None of the listed values. -/
  | notListed (options : List Json)
  /-- Below the least value, or equal to it where that is excluded. -/
  | tooSmall (limit : Number) (exclusive : Bool)
  /-- Above the greatest value, or equal to it where that is excluded. -/
  | tooLarge (limit : Number) (exclusive : Bool)
  /-- Nothing is allowed here. -/
  | never
  /-- The text does not have this format. -/
  | format (name : String)
  /-- Fewer than the least count. -/
  | tooFew (measure : Measure) (limit : Nat)
  /-- More than the greatest count. -/
  | tooMany (measure : Measure) (limit : Nat)
  /-- No multiple of this number. -/
  | notMultiple (divisor : Binary64)
  /-- A schema matches that must not. -/
  | negated (schema : Json)
  /-- The text does not match this pattern. -/
  | pattern (source : String)
  /-- Too much would have to be tried to find out whether the text matches a pattern. -/
  | undecided (limit : Pattern.Machine.Limit)
  /-- The name of a member is wrong. -/
  | memberName (message : String)
  /-- A member is missing. -/
  | required (property : String)
  /-- None of these types. -/
  | notOfType (types : List TypeName)
  /-- A name that is no type. -/
  | unknownType
  /-- Items that no keyword has evaluated. -/
  | unevaluatedItems (items : List Json)
  /-- Members that no keyword has evaluated. -/
  | unevaluatedProperties (names : List String)
  /-- Two items are equal. -/
  | repeatedItems
  deriving DecidableEq

namespace Cause

/-- The keyword that a cause is reported under if `keyword` found it. A wrong encoding is always a
matter of `contentEncoding`. -/
def keywordUnder (keyword : String) : Cause → String
  | encoding _ => "contentEncoding"
  | _ => keyword

def commas (texts : List String) : String := ", ".intercalate texts

/-- A list of things that should not be there. -/
def unexpected (texts : List String) : String :=
  "(" ++ commas texts ++ (if texts.length = 1 then " was unexpected)" else " were unexpected)")

def inQuotes (text : String) : String := "'" ++ text ++ "'"

/-- Divisors are written without exponent, and without a fraction if they have none. -/
def divisorText (x : Binary64) : String :=
  let plain : DecimalStyle :=
    { leastPlain := -400
      greatestPlain := 400
      positiveSign := ""
      infinity := "inf"
      nan := "NaN" }
  let cs := (plain.render x).toList
  String.ofList (if cs.reverse.take 2 == ['0', '.'] then cs.take (cs.length - 2) else cs)

/-- The wording of a cause for a value. -/
def message (value : Json) : Cause → String
  | additionalItems xs => "Additional items are not allowed " ++ unexpected (xs.map Json.render)
  | additionalProperties names =>
    "Additional properties are not allowed " ++ unexpected (names.map inQuotes)
  | noAlternative keyword =>
    value.render ++ " is not valid under any of the schemas listed in the '" ++ keyword
      ++ "' keyword"
  | manyAlternatives =>
    value.render
      ++ " is valid under more than one of the schemas listed in the 'oneOf' keyword"
  | notEqual expected => expected.render ++ " was expected"
  | contains => "None of " ++ value.render ++ " are valid under the given schema"
  | encoding name =>
    value.render ++ " is not compliant with " ++ Json.quote name ++ " content encoding"
  | notText fault => fault.message
  | mediaType name => value.render ++ " is not compliant with " ++ Json.quote name ++ " media type"
  | notListed options => value.render ++ " is not one of " ++ (Json.arr options).render
  | tooSmall limit exclusive =>
    value.render ++ " is less than " ++ (if exclusive then "or equal to " else "")
      ++ "the minimum of " ++ limit.render
  | tooLarge limit exclusive =>
    value.render ++ " is greater than " ++ (if exclusive then "or equal to " else "")
      ++ "the maximum of " ++ limit.render
  | never => "False schema does not allow " ++ value.render
  | format name => value.render ++ " is not a " ++ Json.quote name
  | tooFew .characters n => value.render ++ " is shorter than " ++ Measure.characters.amount n
  | tooFew m n => value.render ++ " has less than " ++ m.amount n
  | tooMany .characters n => value.render ++ " is longer than " ++ Measure.characters.amount n
  | tooMany m n => value.render ++ " has more than " ++ m.amount n
  | notMultiple x => value.render ++ " is not a multiple of " ++ divisorText x
  | negated schema => schema.render ++ " is not allowed for " ++ value.render
  | pattern source => value.render ++ " does not match \"" ++ source ++ "\""
  | undecided .backtracking =>
    "Error executing regex: Max limit for backtracking count exceeded"
  | undecided .ways =>
    "Error executing regex: Max stack size exceeded for backtracking while executing regex"
  | memberName text => text
  | required property => Json.quote property ++ " is a required property"
  | notOfType [t] => value.render ++ " is not of type " ++ Json.quote t.name
  | notOfType ts =>
    value.render ++ " is not of types " ++ commas (ts.map fun t => Json.quote t.name)
  | unknownType => "Unexpected type"
  | unevaluatedItems xs =>
    "Unevaluated items are not allowed " ++ unexpected (xs.map fun x => inQuotes x.render)
  | unevaluatedProperties names =>
    "Unevaluated properties are not allowed " ++ unexpected (names.map inQuotes)
  | repeatedItems => value.render ++ " has non-unique elements"

end Cause

/-- A cause and where it was found. -/
structure Fault where
  /-- The steps to the value, from where the schema was applied. -/
  path : List Json.Step
  /-- The steps to the keyword, from the schema that was applied. -/
  keywords : List Json.Step
  /-- The value that is wrong. -/
  value : Json
  /-- What is wrong. -/
  cause : Cause
  deriving DecidableEq

namespace Fault

def message (f : Fault) : String := f.cause.message f.value

/-- Whether a fault is reported without the place where it was found. -/
def isUnplaced (f : Fault) : Bool :=
  match f.cause with
  | .notText _ => true
  | _ => false

/-- The fault as seen from further up. -/
def below (path keywords : List Json.Step) (f : Fault) : Fault :=
  if f.isUnplaced then f
  else { f with path := path ++ f.path, keywords := keywords ++ f.keywords }

end Fault

end DocCheck.Schema

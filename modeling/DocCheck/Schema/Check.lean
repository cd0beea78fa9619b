import DocCheck.Format
import DocCheck.Schema.Content
import DocCheck.Schema.Fault

/-!
# Checks

A check is what a keyword without subschemas asks of one value. Values of kinds that a check does
not speak of pass it.

* `Check` — the checks;
* `Check.causes` — what is wrong with a value.
-/

namespace DocCheck.Schema

/-- What a keyword without subschemas asks of a value. -/
inductive Check where
  /-- One of these types. The flag says that only numbers written without a point are integers. -/
  | type (types : List TypeName) (integersByForm : Bool)
  /-- This value. -/
  | equal (value : Json)
  /-- One of these values. -/
  | listed (options : List Json)
  /-- At least this number, or more than it. -/
  | atLeast (limit : Number) (exclusive : Bool)
  /-- At most this number, or less than it. -/
  | atMost (limit : Number) (exclusive : Bool)
  /-- A multiple of this number. -/
  | multiple (divisor : Binary64)
  /-- At least so many. -/
  | least (measure : Measure) (limit : Nat)
  /-- At most so many. -/
  | most (measure : Measure) (limit : Nat)
  /-- A text with a piece that matches. -/
  | pattern (pattern : Pattern) (source : String)
  /-- A text of this format. -/
  | format (format : Format)
  /-- No value at all. -/
  | never
  /-- No two equal items. -/
  | distinct
  /-- No more items than this. -/
  | noItemsFrom (count : Nat)
  /-- Members with these names. -/
  | required (names : List String)
  /-- Members with these names, if there is one with the first name. -/
  | requiredWith (name : String) (names : List String)
  /-- No member at all. Its value is what is wrong. -/
  | noMembers
  /-- No member at all. The object is what is wrong. -/
  | noNames
  /-- A text in an encoding. -/
  | encoded
  /-- A text that is JSON. -/
  | json
  /-- A text that is JSON once it is decoded. -/
  | encodedJson
  deriving DecidableEq

namespace TypeName

/-- Whether a value has a type. -/
def has (integersByForm : Bool) : TypeName → Json → Bool
  | array, .arr _ => true
  | boolean, .bool _ => true
  | integer, .num (.int _) => true
  | integer, .num (.float x) => !integersByForm && x.isIntegral
  | null, .null => true
  | number, .num _ => true
  | object, .obj _ => true
  | string, .str _ => true
  | _, _ => false

end TypeName

namespace Check

/-- The least distance at which two numbers are told apart by `equal`. -/
def tolerance : Binary64 := .ofRatio false 1 (Nat.pow 2 52)

/-- Whether a value is the one asked for. Two numbers are compared after rounding. -/
def isEqual (expected value : Json) : Bool :=
  match expected, value with
  | .num a, .num b => ((a.toBinary64.sub b.toBinary64).abs.compare tolerance) == .lt
  | a, b => a.same b

/-- The digits and the exponent of the shortest decimal of a magnitude. -/
def decimalParts (x : Binary64) : Nat × Int :=
  if x.isZero then (0, 0)
  else
    let d := x.shortest
    (d.digits, d.point - (DecimalStyle.natDigits d.digits).length)

/-- Whether one number is a multiple of another, going by their shortest decimals. -/
def isDecimalMultiple (x divisor : Binary64) : Bool :=
  let (a, e) := decimalParts x
  let (b, f) := decimalParts divisor
  let shift := e - f
  let num := if 0 ≤ shift then a * Nat.pow 10 shift.toNat else a
  let den := if 0 ≤ shift then b else b * Nat.pow 10 (-shift).toNat
  den != 0 && num % den == 0

/-- Whether a number counts as a multiple. By an integer the division has to come out even; by any
other number the fraction of the rounded quotient has to be small. -/
def isMultiple (x divisor : Binary64) : Bool :=
  if divisor.isIntegral then x.isIntegral && !divisor.isZero && (x.rem divisor).isZero
  else
    let quotient := x.div divisor
    if quotient.isFinite then
      ((quotient.rem (.ofInt 1)).compare tolerance) == .lt
    else isDecimalMultiple x divisor

/-- Whether no two items are equal. -/
def allDistinct : List Json → Bool
  | [] => true
  | x :: xs => xs.all (fun y => !x.same y) && allDistinct xs

def missing (names : List String) (members : List (String × Json)) : List Cause :=
  (names.filter fun n => (Json.lookup n members).isNone).map Cause.required

/-- The cause, unless the test is passed. -/
def refuse (passed : Bool) (cause : Cause) : List Cause := if passed then [] else [cause]

/-- What is wrong with a text that has to match a pattern. -/
def patternCauses (p : Pattern) (source text : String) : List Cause :=
  match p.matchesIn text with
  | .ok found => refuse found (.pattern source)
  | .error limit => [.undecided limit]

/-- What is wrong with bytes that have to be the text of a JSON value. -/
def contentCauses (bytes : List UInt8) : List Cause :=
  match Text.utf8Fault? bytes with
  | some fault => [.notText fault]
  | none =>
    let text := (String.fromUTF8? ⟨bytes.toArray⟩).getD ""
    refuse (Content.isJson text) (.mediaType Content.json)

/-- What is wrong with a value, and which value that is. -/
def causes (c : Check) (value : Json) : List (Json × Cause) :=
  let here (causes : List Cause) : List (Json × Cause) := causes.map fun cause => (value, cause)
  match c, value with
  | type ts byForm, v =>
    here (refuse (ts.any fun t => t.has byForm v) (.notOfType (TypeName.all.filter ts.contains)))
  | equal expected, v => here (refuse (isEqual expected v) (.notEqual expected))
  | listed options, v => here (refuse (options.any fun o => o.same v) (.notListed options))
  | atLeast limit exclusive, .num n =>
    let order := n.compare limit
    here (refuse (order == .gt || (order == .eq && !exclusive)) (.tooSmall limit exclusive))
  | atMost limit exclusive, .num n =>
    let order := n.compare limit
    here (refuse (order == .lt || (order == .eq && !exclusive)) (.tooLarge limit exclusive))
  | multiple divisor, .num n =>
    here (refuse (isMultiple n.toBinary64 divisor) (.notMultiple divisor))
  | least m limit, v => here (refuse ((m.count? v).all fun n => limit ≤ n) (.tooFew m limit))
  | most m limit, v => here (refuse ((m.count? v).all fun n => n ≤ limit) (.tooMany m limit))
  | pattern p source, .str s => here (patternCauses p source s)
  | format f, .str s => here (refuse (f.accepts s) (.format f.name))
  | never, _ => here [.never]
  | distinct, .arr xs => here (refuse (allDistinct xs) .repeatedItems)
  | noItemsFrom n, .arr xs => here (refuse (xs.length ≤ n) (.additionalItems (xs.drop n)))
  | required names, .obj ms => here (missing names ms)
  | requiredWith name names, .obj ms =>
    here (if (Json.lookup name ms).isSome then missing names ms else [])
  | noMembers, .obj ((_, v) :: _) => [(v, .never)]
  | noNames, .obj (_ :: _) => here [.never]
  | encoded, .str s =>
    here (refuse (Content.decodeBase64? s.toList).isSome (.encoding Content.base64))
  | json, .str s => here (refuse (Content.isJson s) (.mediaType Content.json))
  | encodedJson, .str s =>
    match Content.decodeBase64? s.toList with
    | none => here [.encoding Content.base64]
    | some bytes => here (contentCauses bytes)
  | _, _ => []

end Check

end DocCheck.Schema

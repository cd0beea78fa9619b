import DocCheck.Json.Basic
import DocCheck.Number.Shortest

/-!
# YAML values

What a YAML document says once scalars have been resolved, tags understood and aliases replaced. A
mapping keeps its entries in order, and any value may be a key.

* `Yaml.Value` — the values;
* `Yaml.Value.same` — the equality under which the keys of a mapping must differ.
-/

namespace DocCheck.Yaml

/-- YAML numbers are written like those of JSON, but a positive exponent has no sign. -/
def decimals : DecimalStyle :=
  { leastPlain := -5, greatestPlain := 15, positiveSign := "", infinity := ".inf", nan := ".nan" }

def renderNumber : Number → String
  | .int n => DecimalStyle.intDigits n
  | .float x => decimals.render x

/-- A YAML value. -/
inductive Value where
  /-- The value null. -/
  | null
  /-- A truth value. -/
  | bool (value : Bool)
  /-- A number; binary64 numbers may be infinite or NaN. -/
  | num (value : Number)
  /-- A string. -/
  | str (value : String)
  /-- A list. -/
  | seq (items : List Value)
  /-- A mapping, its entries in order. -/
  | map (entries : List (Value × Value))
  /-- A value with a tag of its own. -/
  | tagged (tag : String) (value : Value)

namespace Value

instance : Inhabited Value := ⟨.null⟩

/-- Numbers are the same if both are integers or both binary64 numbers of one value; NaN is the same
as NaN. -/
def sameNumber : Number → Number → Bool
  | .int a, .int b => a == b
  | .float x, .float y =>
    if x.isNaN || y.isNaN then x.isNaN && y.isNaN
    else x == y || (x.isZero && y.isZero)
  | _, _ => false

mutual

/-- Whether two values count as one key. The order of a mapping's entries does not matter. -/
def same : Value → Value → Bool
  | .null, .null => true
  | .bool a, .bool b => a == b
  | .num a, .num b => sameNumber a b
  | .str a, .str b => a == b
  | .seq as, .seq bs => sameItems as bs
  | .map as, .map bs => as.length == bs.length && sameEntries as bs
  | .tagged s a, .tagged t b => s == t && same a b
  | _, _ => false
  termination_by structural a => a

/-- Whether two lists are the same item by item. -/
def sameItems : List Value → List Value → Bool
  | [], [] => true
  | a :: as, b :: bs => same a b && sameItems as bs
  | _, _ => false
  termination_by structural as => as

/-- Whether each entry of the first mapping is one of the second. -/
def sameEntries : List (Value × Value) → List (Value × Value) → Bool
  | [], _ => true
  | a :: as, bs => sameEntry a bs && sameEntries as bs
  termination_by structural as => as

/-- Whether an entry is one of a mapping. -/
def sameEntry : Value × Value → List (Value × Value) → Bool
  | (k, v), bs => bs.any fun b => same k b.1 && same v b.2
  termination_by structural a => a

end

end Value

end DocCheck.Yaml

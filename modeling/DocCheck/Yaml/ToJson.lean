import DocCheck.Yaml.Value

/-!
# YAML values as JSON values

JSON has no tags, no infinite numbers, and only texts as keys. A YAML value without the first two is
taken over as it is, and scalar keys become the texts that spell them; everything else is refused,
and of several reasons the first in document order is given.

* `Refusal`, `Refusal.message` — why a value is refused;
* `Value.keyText?` — the text of a key;
* `Value.numberToJson` — numbers;
* `Value.toJson` — the JSON value.
-/

namespace DocCheck.Yaml

/-- Why JSON cannot say a value. -/
inductive Refusal where
  /-- A value with a tag of its own. -/
  | tag (name : String)
  /-- A key that is a list, a mapping or tagged. -/
  | key
  /-- A number that is infinite or NaN. -/
  | number (n : Number)
  /-- A number of no known kind. -/
  | unsupported (n : Number)
  deriving DecidableEq

namespace Refusal

def message : Refusal → String
  | tag name => "unsupported tag !" ++ name ++ " (only plain JSON-compatible values are allowed)"
  | key => "mapping keys must be scalars"
  | number n => "number " ++ renderNumber n ++ " cannot be represented in JSON"
  | unsupported n => "unsupported number: " ++ renderNumber n

end Refusal

namespace Value

def keyText? : Value → Option String
  | .str s => some s
  | .num n => some (renderNumber n)
  | .bool b => some (if b then "true" else "false")
  | .null => some "null"
  | _ => none

/-- The value of an integer that fits into 64 bits with a sign. No integer is below `-2 ^ 63`. -/
def signed? : Number → Option Int
  | .int n => if n < Nat.pow 2 63 then some n else none
  | .float _ => none

/-- The value of an integer that is not negative. -/
def unsigned? : Number → Option Nat
  | .int n => if 0 ≤ n then some n.toNat else none
  | .float _ => none

/-- A number as a binary64 number, which every number has. -/
def binary64? (n : Number) : Option Binary64 := some n.toBinary64

/-- A number, unless it is infinite or NaN: an integer with a sign if it fits, or else one without,
or else a binary64 number. -/
def numberToJson (n : Number) : Except Refusal Json :=
  match signed? n with
  | some i => .ok (.num (.int i))
  | none =>
    match unsigned? n with
    | some u => .ok (.num (.int u))
    | none =>
      match binary64? n with
      | some x => if x.isFinite then .ok (.num (.float x)) else .error (.number n)
      | none => .error (.unsupported n)

/-- An integer stays the integer that it is. -/
@[simp] theorem numberToJson_int (n : Int) : numberToJson (.int n) = .ok (.num (.int n)) := by
  unfold numberToJson signed? unsigned?
  by_cases hsigned : n < Nat.pow 2 63
  · simp only [if_pos hsigned]
  · -- too large for a sign, so it is not negative
    have hnonneg : 0 ≤ n := Int.le_trans (Int.natCast_nonneg _) (Int.not_lt.mp hsigned)
    simp only [if_neg hsigned, if_pos hnonneg, Int.toNat_of_nonneg hnonneg]

/-- A binary64 number stays the one that it is, if it is finite. -/
@[simp] theorem numberToJson_float (x : Binary64) :
    numberToJson (.float x) =
      if x.isFinite then .ok (.num (.float x)) else .error (.number (.float x)) := rfl

mutual

/-- The JSON value. Of two entries whose keys have the same text the later one stays. -/
def toJson : Value → Except Refusal Json
  | .null => .ok .null
  | .bool b => .ok (.bool b)
  | .num n => numberToJson n
  | .str s => .ok (.str s)
  | .seq xs =>
    match itemsToJson xs with
    | .ok ys => .ok (.arr ys)
    | .error e => .error e
  | .map es =>
    match entriesToJson es with
    | .ok ms => .ok (.ofMembers ms)
    | .error e => .error e
  | .tagged tag _ => .error (.tag tag)
  termination_by structural v => v

/-- The JSON values of items, in order. -/
def itemsToJson : List Value → Except Refusal (List Json)
  | [] => .ok []
  | x :: xs =>
    match toJson x with
    | .error e => .error e
    | .ok y =>
      match itemsToJson xs with
      | .ok ys => .ok (y :: ys)
      | .error e => .error e
  termination_by structural xs => xs

/-- The members for entries, in order. -/
def entriesToJson : List (Value × Value) → Except Refusal (List (String × Json))
  | [] => .ok []
  | e :: es =>
    match entryToJson e with
    | .error r => .error r
    | .ok m =>
      match entriesToJson es with
      | .ok ms => .ok (m :: ms)
      | .error r => .error r
  termination_by structural es => es

/-- The member for an entry; its key is looked at first. -/
def entryToJson : Value × Value → Except Refusal (String × Json)
  | (k, v) =>
    match keyText? k with
    | none => .error .key
    | some text =>
      match toJson v with
      | .ok j => .ok (text, j)
      | .error r => .error r
  termination_by structural e => e

end

end Value

end DocCheck.Yaml

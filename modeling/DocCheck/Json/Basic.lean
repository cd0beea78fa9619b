import DocCheck.Number.Binary64

/-!
# JSON values

A JSON value as the checker holds it. An object is a list of members in strictly increasing order
of their keys, which is also the order in which members are written, walked and reported;
`Json.insert` is the one way to build such a list, and a member that is inserted again replaces the
earlier one.

* `Json.lookup`, `Json.insert`, `Json.ofMembers` — members by key;
* `Json.SortedKeys` — the order of keys holds at every depth;
* `Json.same` — equality by value, where `1` and `1.0` are the same number.
-/

namespace DocCheck

/-- A JSON number: an integer between `-2 ^ 63` and `2 ^ 64 - 1`, or a finite binary64 number. -/
inductive Number where
  /-- An integer, held exactly. -/
  | int (value : Int)
  /-- Any other number. -/
  | float (value : Binary64)
  deriving DecidableEq

/-- A JSON value. -/
inductive Json where
  /-- The value `null`. -/
  | null
  /-- A truth value. -/
  | bool (value : Bool)
  /-- A number. -/
  | num (value : Number)
  /-- A string. -/
  | str (value : String)
  /-- An array. -/
  | arr (items : List Json)
  /-- An object, its members sorted by key. -/
  | obj (members : List (String × Json))

namespace Json

instance : Inhabited Json := ⟨.null⟩

/-! ### Decidable equality -/

mutual

/-- Decides whether two values are equal. -/
def decEq (a b : Json) : Decidable (a = b) :=
  match a, b with
  | .null, .null => .isTrue rfl
  | .bool x, .bool y => if h : x = y then .isTrue (by rw [h]) else .isFalse (by simp [h])
  | .num x, .num y => if h : x = y then .isTrue (by rw [h]) else .isFalse (by simp [h])
  | .str x, .str y => if h : x = y then .isTrue (by rw [h]) else .isFalse (by simp [h])
  | .arr xs, .arr ys =>
    match decEqItems xs ys with
    | .isTrue h => .isTrue (by rw [h])
    | .isFalse h => .isFalse (by simp [h])
  | .obj xs, .obj ys =>
    match decEqMembers xs ys with
    | .isTrue h => .isTrue (by rw [h])
    | .isFalse h => .isFalse (by simp [h])
  | .null, .bool _ | .null, .num _ | .null, .str _ | .null, .arr _ | .null, .obj _
  | .bool _, .null | .bool _, .num _ | .bool _, .str _ | .bool _, .arr _ | .bool _, .obj _
  | .num _, .null | .num _, .bool _ | .num _, .str _ | .num _, .arr _ | .num _, .obj _
  | .str _, .null | .str _, .bool _ | .str _, .num _ | .str _, .arr _ | .str _, .obj _
  | .arr _, .null | .arr _, .bool _ | .arr _, .num _ | .arr _, .str _ | .arr _, .obj _
  | .obj _, .null | .obj _, .bool _ | .obj _, .num _ | .obj _, .str _ | .obj _, .arr _ =>
    .isFalse (by simp)
  termination_by structural a

/-- Decides whether two lists of items are equal. -/
def decEqItems (xs ys : List Json) : Decidable (xs = ys) :=
  match xs, ys with
  | [], [] => .isTrue rfl
  | [], _ :: _ => .isFalse (by simp)
  | _ :: _, [] => .isFalse (by simp)
  | x :: xs, y :: ys =>
    match decEq x y, decEqItems xs ys with
    | .isTrue h, .isTrue hs => .isTrue (by rw [h, hs])
    | .isFalse h, _ => .isFalse (by simp [h])
    | _, .isFalse hs => .isFalse (by simp [hs])
  termination_by structural xs

/-- Decides whether two lists of members are equal. -/
def decEqMembers (xs ys : List (String × Json)) : Decidable (xs = ys) :=
  match xs, ys with
  | [], [] => .isTrue rfl
  | [], _ :: _ => .isFalse (by simp)
  | _ :: _, [] => .isFalse (by simp)
  | x :: xs, y :: ys =>
    match decEqMember x y, decEqMembers xs ys with
    | .isTrue h, .isTrue hs => .isTrue (by rw [h, hs])
    | .isFalse h, _ => .isFalse (by simp [h])
    | _, .isFalse hs => .isFalse (by simp [hs])
  termination_by structural xs

/-- Decides whether two members are equal. -/
def decEqMember (x y : String × Json) : Decidable (x = y) :=
  match x, y with
  | (k, v), (k', v') =>
    match (inferInstance : Decidable (k = k')), decEq v v' with
    | .isTrue h, .isTrue hv => .isTrue (by rw [h, hv])
    | .isFalse h, _ => .isFalse (by simp [h])
    | _, .isFalse hv => .isFalse (by simp [hv])
  termination_by structural x

end

instance : DecidableEq Json := decEq

/-! ### Members -/

/-- The value of a key in a list of members. -/
def lookup (key : String) : List (String × Json) → Option Json
  | [] => none
  | (k, v) :: rest => if k = key then some v else lookup key rest

/-- Puts a member in its place, replacing an earlier one with the same key. -/
def insert (key : String) (value : Json) : List (String × Json) → List (String × Json)
  | [] => [(key, value)]
  | (k, v) :: rest =>
    if k = key then (key, value) :: rest
    else if key < k then (key, value) :: (k, v) :: rest
    else (k, v) :: insert key value rest

/-- The object with the given members; of two with the same key the later one stays. -/
def ofMembers (members : List (String × Json)) : Json :=
  .obj (members.foldl (fun acc m => insert m.1 m.2 acc) [])

/-- The member of an object, if the value is one. -/
def get? (j : Json) (key : String) : Option Json :=
  match j with
  | .obj ms => lookup key ms
  | _ => none

/-- Whether the value is an object. -/
def isObject : Json → Bool
  | .obj _ => true
  | _ => false

/-- Whether the value is an array. -/
def isArray : Json → Bool
  | .arr _ => true
  | _ => false

/-- The text of a string value. -/
def text? : Json → Option String
  | .str s => some s
  | _ => none

/-- The members of an object; a value of any other kind has none. -/
def members : Json → List (String × Json)
  | .obj ms => ms
  | _ => []

mutual

/-- At every depth the keys of an object are strictly increasing. -/
def SortedKeys : Json → Prop
  | .arr xs => SortedItems xs
  | .obj ms => ms.Pairwise (fun a b => a.1 < b.1) ∧ SortedMembers ms
  | _ => True
  termination_by structural j => j

/-- `SortedKeys` of each item. -/
def SortedItems : List Json → Prop
  | [] => True
  | x :: xs => SortedKeys x ∧ SortedItems xs
  termination_by structural xs => xs

/-- `SortedKeys` of each member's value. -/
def SortedMembers : List (String × Json) → Prop
  | [] => True
  | m :: ms => SortedMember m ∧ SortedMembers ms
  termination_by structural ms => ms

/-- `SortedKeys` of a member's value. -/
def SortedMember : String × Json → Prop
  | (_, v) => SortedKeys v
  termination_by structural m => m

end

/-! ### Size -/

mutual

/-- The number of values in the tree. -/
def size : Json → Nat
  | .arr xs => 1 + sizeItems xs
  | .obj ms => 1 + sizeMembers ms
  | _ => 1
  termination_by structural j => j

/-- The number of values in a list of items. -/
def sizeItems : List Json → Nat
  | [] => 0
  | x :: xs => size x + sizeItems xs
  termination_by structural xs => xs

/-- The number of values in a list of members. -/
def sizeMembers : List (String × Json) → Nat
  | [] => 0
  | m :: ms => sizeMember m + sizeMembers ms
  termination_by structural ms => ms

/-- The number of values in a member. -/
def sizeMember : String × Json → Nat
  | (_, v) => size v
  termination_by structural m => m

end

mutual

/-- The number of objects in the tree. -/
def objects : Json → Nat
  | .arr xs => objectsItems xs
  | .obj ms => 1 + objectsMembers ms
  | _ => 0
  termination_by structural j => j

/-- The number of objects in a list of items. -/
def objectsItems : List Json → Nat
  | [] => 0
  | x :: xs => objects x + objectsItems xs
  termination_by structural xs => xs

/-- The number of objects in a list of members. -/
def objectsMembers : List (String × Json) → Nat
  | [] => 0
  | m :: ms => objectsMember m + objectsMembers ms
  termination_by structural ms => ms

/-- The number of objects in a member. -/
def objectsMember : String × Json → Nat
  | (_, v) => objects v
  termination_by structural m => m

end

end Json

namespace Number

/-- Exact order of two numbers. -/
def compare : Number → Number → Ordering
  | .int a, .int b => Ord.compare a b
  | .int a, .float b => (b.compareInt a).swap
  | .float a, .int b => a.compareInt b
  | .float a, .float b => a.compare b

/-- Equality of numbers by value. -/
def same (a b : Number) : Bool := a.compare b == .eq

/-- The binary64 number nearest to a number. -/
def toBinary64 : Number → Binary64
  | .int n => .ofInt n
  | .float x => x

end Number

namespace Json

mutual

/-- Equality by value: numbers are compared as numbers, whatever their representation. -/
def same : Json → Json → Bool
  | .null, .null => true
  | .bool a, .bool b => a == b
  | .num a, .num b => a.same b
  | .str a, .str b => a == b
  | .arr as, .arr bs => sameItems as bs
  | .obj as, .obj bs => sameMembers as bs
  | _, _ => false
  termination_by structural a => a

/-- Two lists of items are equal by value. -/
def sameItems : List Json → List Json → Bool
  | [], [] => true
  | a :: as, b :: bs => same a b && sameItems as bs
  | _, _ => false
  termination_by structural as => as

/-- Two lists of members are equal by value. -/
def sameMembers : List (String × Json) → List (String × Json) → Bool
  | [], [] => true
  | a :: as, b :: bs => sameMember a b && sameMembers as bs
  | _, _ => false
  termination_by structural as => as

/-- Two members are equal by value. -/
def sameMember : String × Json → String × Json → Bool
  | (k, v), (k', v') => k == k' && same v v'
  termination_by structural m => m

end

end Json

end DocCheck

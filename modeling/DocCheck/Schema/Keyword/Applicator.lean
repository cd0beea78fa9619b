import DocCheck.Schema.Keyword.Check

/-!
# Keywords with subschemas

What a keyword asks that has subschemas, once these are compiled.

* `Subtrees` — the compiled subschemas of one keyword;
* `Keyword.applicatorParts` — the parts that such a keyword brings.
-/

namespace DocCheck.Schema

/-- The compiled subschemas in the value of a keyword. -/
structure Subtrees where
  /-- The value itself as a schema. -/
  whole : Node
  /-- The items of the value as schemas. -/
  items : List Node
  /-- The members of the value as schemas, with their names. -/
  members : List (String × Node)

instance : Inhabited Subtrees := ⟨⟨.always, [], []⟩⟩

/-- The keywords of one schema, each with its compiled subschemas. -/
abbrev Keywords := List (String × Json × Subtrees)

namespace Keyword

/-- A keyword among those of a schema. -/
def find? (ks : Keywords) (keyword : String) : Option (Json × Subtrees) := ks.lookup keyword

def value? (ks : Keywords) (keyword : String) : Option Json := (find? ks keyword).map Prod.fst

/-- The entry for one pattern; a text that is none makes the entry unusable. -/
def patternEntry (source : String) (schema : Json) (node : Node) : Selector × Node :=
  match Pattern.read source with
  | some p => (.pattern source p, node)
  | none =>
    (.name source, .broken (.malformed schema (.format Format.regex.name)))

/-- The entries of `patternProperties`. -/
def patternEntries (value : Json) (sub : Subtrees) : List (Selector × Node) :=
  (value.members.zip sub.members).map fun p => patternEntry p.1.1 p.1.2 p.2.2

/-- The entries of `properties`. -/
def nameEntries (sub : Subtrees) : List (Selector × Node) :=
  sub.members.map fun m => (.name m.1, m.2)

/-- The entries of all members that a schema lists by name or pattern. -/
def listedEntries (ks : Keywords) : List (Selector × Node) :=
  ((find? ks "properties").elim [] fun p => nameEntries p.2)
    ++ ((find? ks "patternProperties").elim [] fun p => patternEntries p.1 p.2)

/-- Whether `additionalProperties` says something about members, and so speaks of the listed ones
too. -/
def closesMembers (ks : Keywords) : Bool :=
  match value? ks "additionalProperties" with
  | some (.bool false) | some (.obj _) => true
  | _ => false

/-- The keyword `additionalProperties`, which also applies the schemas of the listed members. -/
def additionalParts (ks : Keywords) (value : Json) (sub : Subtrees) : List Node :=
  let listed := (value? ks "properties").isSome || (value? ks "patternProperties").isSome
  match value with
  | .bool false =>
    -- The listed members are checked here, which is why `properties` brings nothing then.
    if listed then [.closed (listedEntries ks)]
    else [.check "additionalProperties" .noMembers]
  | .obj _ => [.others (listedEntries ks) sub.whole]
  | .bool true => [.others [] .always]
  | _ => []

/-- A keyword whose value has to be an object. -/
def onObject (value : Json) (parts : List Node) : List Node :=
  if value.isObject then parts else mistyped value [.object]

/-- A keyword whose value has to be a list. -/
def onList (value : Json) (parts : List Node) : List Node :=
  match value with
  | .arr _ => parts
  | v => mistyped v [.array]

/-- One entry of `dependencies`: names for a list of names, a subschema for all else. -/
def dependencyPart (name : String) (value : Json) (node : Node) : List Node :=
  match value with
  | .arr vs =>
    match nameList vs with
    | .ok names => [.check "dependencies" (.requiredWith name names)]
    | .error parts => parts
  | _ => [.dependent "dependencies" [(.name name, node)]]

/-- The keyword `dependencies`. -/
def dependencyParts (value : Json) (sub : Subtrees) : List Node :=
  (value.members.zip sub.members).flatMap fun p => dependencyPart p.1.1 p.1.2 p.2.2

/-- How many schemas `prefixItems` lists. -/
def prefixLength (ks : Keywords) : Nat :=
  match value? ks "prefixItems" with
  | some (.arr xs) => xs.length
  | _ => 0

/-- The keyword `items`: one schema for all items behind those of `prefixItems`, or one for each of
the first items. All items count as evaluated, but of a list without `additionalItems` beside it,
which the last draft does not know, only the first ones. -/
def itemParts (d : Draft) (ks : Keywords) (value : Json) (sub : Subtrees) : List Node :=
  match value with
  | .arr xs =>
    let all := d == .draft2020 || (value? ks "additionalItems").isSome
    [.tuple "items" sub.items, .covers (if all then none else some xs.length)]
  | .obj _ | .bool _ => [.items "items" (prefixLength ks) sub.whole, .covers none]
  | _ => [.covers none]

/-- The keyword `additionalItems`, which speaks only of items behind a list of schemas. Beside
`items` with the value `false` no value at all is allowed. -/
def additionalItemParts (ks : Keywords) (value : Json) (sub : Subtrees) : List Node :=
  match value? ks "items", value with
  | some (.arr xs), .bool false => [.check "additionalItems" (.noItemsFrom xs.length)]
  | some (.arr xs), .obj _ => [.items "additionalItems" xs.length sub.whole]
  | some (.arr _), _ | some (.obj _), _ | some (.bool true), _ | none, _ => []
  | some (.bool false), _ => [.check "additionalItems" .never]
  | some _, _ => mistyped value [.array, .boolean, .object]

/-- A count of matching items beside `contains`. -/
def matchCount? (d : Draft) (ks : Keywords) (keyword : String) :
    Except (List Node) (Option Nat) :=
  if d.atLeast .draft2019 then
    match value? ks keyword with
    | none => .ok none
    | some v => (count true v).map some
  else .ok none

/-- The keyword `contains`. -/
def containsParts (d : Draft) (ks : Keywords) (sub : Subtrees) : List Node :=
  match matchCount? d ks "minContains", matchCount? d ks "maxContains" with
  | .error parts, _ => parts
  | _, .error parts => parts
  | .ok least, .ok most => [.contains sub.whole least most]

/-- A branch beside `if`. One that is there is told from one that is not, even if it allows
everything. -/
def branch (ks : Keywords) (keyword : String) : Node :=
  (find? ks keyword).elim .always fun p => .all [p.2.whole]

/-- The keyword `if`, with `then` and `else` beside it. -/
def choiceParts (ks : Keywords) (sub : Subtrees) : List Node :=
  [.choice sub.whole (branch ks "then") (branch ks "else")]

def referenceParts (scope : Scope) (keyword : String) : Json → List Node
  | .str text => [.ref ⟨scope, keyword, some text⟩]
  | v => mistyped v [.string]

/-- The parts that a keyword with subschemas brings; nothing for any other keyword. -/
def applicatorParts (scope : Scope) (ks : Keywords) (keyword : String) (value : Json)
    (sub : Subtrees) : List Node :=
  let d := scope.draft
  match keyword with
  | "$ref" => referenceParts scope "$ref" value
  | "$dynamicRef" =>
    if d == .draft2020 then referenceParts scope "$dynamicRef" value else []
  | "$recursiveRef" =>
    if d == .draft2019 then [.ref ⟨scope, "$recursiveRef", none⟩] else []
  | "properties" =>
    if closesMembers ks then [] else onObject value [.select (nameEntries sub)]
  | "patternProperties" =>
    if closesMembers ks then [] else onObject value [.select (patternEntries value sub)]
  | "additionalProperties" => additionalParts ks value sub
  | "propertyNames" =>
    if d.atLeast .draft6 then
      match value with
      | .bool true => []
      | .bool false => [.check "propertyNames" .noNames]
      | _ => [.names sub.whole]
    else []
  | "items" => itemParts d ks value sub
  | "prefixItems" =>
    if d == .draft2020 then
      onList value [.tuple "prefixItems" sub.items, .covers (some sub.items.length)]
    else []
  | "additionalItems" => if d == .draft2020 then [] else additionalItemParts ks value sub
  | "contains" => if d.atLeast .draft6 then containsParts d ks sub else []
  | "allOf" => onList value [.allOf sub.items]
  | "anyOf" => onList value [.anyOf sub.items]
  | "oneOf" => onList value [.oneOf sub.items]
  | "not" => [.negation sub.whole value]
  | "if" => if d.atLeast .draft7 then choiceParts ks sub else []
  | "dependencies" => onObject value (dependencyParts value sub)
  | "dependentSchemas" =>
    if d.atLeast .draft2019 then
      onObject value [.dependent "dependentSchemas" (nameEntries sub)]
    else []
  | "unevaluatedProperties" =>
    if d.atLeast .draft2019 then [.unevaluatedMembers sub.whole] else []
  | "unevaluatedItems" => if d.atLeast .draft2019 then [.unevaluatedItems sub.whole] else []
  | _ => []

/-- The parts that a keyword brings, if it is among those that are read. -/
def parts (scope : Scope) (members : List (String × Json)) (ks : Keywords) (keyword : String)
    (value : Json) (sub : Subtrees) : List Node :=
  if scope.vocabularies.has scope.draft keyword then
    match checkParts scope.draft members keyword value with
    | some parts => parts
    | none => applicatorParts scope ks keyword value sub
  else []

end Keyword

end DocCheck.Schema

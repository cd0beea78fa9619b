import DocCheck.Schema.Keyword.Applicator

/-!
# Compiling schemas

A schema becomes a tree: `true` allows everything, `false` nothing, and an object asks what its
keywords ask. A subschema is read in the scope of the schema around it, which its own URI and draft
may change; a schema that a reference leads to keeps the scope in which it was found.

* `Schema.compile` — the tree of a schema in a scope;
* `Target.compile` — the tree of what a reference means.
-/

namespace DocCheck.Schema

/-- The parts of the keywords of one schema, in order. Where a reference hides everything beside it,
it is the only part. -/
def assemble (scope : Scope) (members : List (String × Json)) (ks : Keywords) : Node :=
  match scope.draft.referenceHidesSiblings, Keyword.find? ks "$ref" with
  | true, some (v, _) => .all (Keyword.referenceParts scope "$ref" v)
  | _, _ => .all (ks.flatMap fun k => Keyword.parts scope members ks k.1 k.2.1 k.2.2)

/-- The scope inside a subschema. One that names a draft that is not understood, in a place where no
schema was looked for, is read as one of the latest draft. -/
def Scope.inside (scope : Scope) (schema : Json) : Except ReferenceError Scope :=
  scope.enter ⟨(scope.draft.detect schema).toOption.getD .latest, schema⟩

/-- A value that is no schema. -/
def noSchema (value : Json) : Node := .broken (.malformed value (.notOfType [.boolean, .object]))

/-- How the value of a keyword holds subschemas, in any draft. -/
inductive Holding where
  /-- It is one or a list of them. -/
  | direct
  /-- It maps names to them. -/
  | named
  /-- It holds none. -/
  | data
  deriving DecidableEq

/-- How the value of a keyword holds subschemas. -/
def Holding.ofKeyword (keyword : String) : Holding :=
  if ["dependencies", "dependentSchemas", "patternProperties", "properties"].contains keyword then
    .named
  else if ["additionalItems", "additionalProperties", "allOf", "anyOf", "contains", "else", "if",
      "items", "not", "oneOf", "prefixItems", "propertyNames", "then", "unevaluatedItems",
      "unevaluatedProperties"].contains keyword then
    .direct
  else .data

mutual

/-- The tree of a schema in the scope of the schema around it. -/
def compile (scope : Scope) : Json → Node
  | .bool true => .always
  | .bool false => .never
  | .obj ms =>
    match scope.inside (.obj ms) with
    | .error e => .broken (.reference e)
    | .ok scope => assemble scope ms (compileMembers scope ms)
  | v => noSchema v
  termination_by structural j => j

/-- The keywords of a schema, each with its compiled subschemas. -/
def compileMembers (scope : Scope) : List (String × Json) → Keywords
  | [] => []
  | m :: ms => compileMember scope m :: compileMembers scope ms
  termination_by structural ms => ms

/-- A keyword with its compiled subschemas. -/
def compileMember (scope : Scope) : String × Json → String × Json × Subtrees
  | (k, v) =>
    (k, v, match Holding.ofKeyword k with
      | .named => ⟨.always, [], compileMap scope v⟩
      -- Which of the two is meant only the keyword knows, so both are made.
      | .direct => ⟨compile scope v, compileList scope v, []⟩
      | .data => default)
  termination_by structural m => m

/-- The schemas in an array; a value of any other kind has none. -/
def compileList (scope : Scope) : Json → List Node
  | .arr xs => compileItems scope xs
  | _ => []
  termination_by structural j => j

/-- The schemas that an object maps names to; a value of any other kind has none. -/
def compileMap (scope : Scope) : Json → List (String × Node)
  | .obj ms => compileNamed scope ms
  | _ => []
  termination_by structural j => j

def compileItems (scope : Scope) : List Json → List Node
  | [] => []
  | x :: xs => compile scope x :: compileItems scope xs
  termination_by structural xs => xs

/-- A map from names to schemas. -/
def compileNamed (scope : Scope) : List (String × Json) → List (String × Node)
  | [] => []
  | m :: ms => compileEntry scope m :: compileNamed scope ms
  termination_by structural ms => ms

def compileEntry (scope : Scope) : String × Json → String × Node
  | (name, v) => (name, compile scope v)
  termination_by structural m => m

end

/-- The tree of what a reference means. -/
def Target.compile (t : Target) : Node :=
  match t.schema with
  | .bool true => .always
  | .bool false => .never
  -- The scope is that inside the schema already, as the lookup has left it.
  | .obj ms => assemble t.scope ms (compileMembers t.scope ms)
  | v => noSchema v

end DocCheck.Schema

import DocCheck.Schema.Check
import DocCheck.Schema.Store

/-!
# Compiled schemas

A schema is compiled into a tree before it is applied. Each part of the tree is what one keyword
asks of a value; keywords that look at one another are one part. References stay references: the
tree says where they stand and what they say, and they are followed when the tree is applied.

* `Node` — the trees;
* `Selector` — which members of an object a subschema is for;
* `BuildError` — what makes a schema unusable.
-/

namespace DocCheck.Schema

/-- What makes a schema unusable. -/
inductive BuildError where
  /-- A reference means no schema. -/
  | reference (error : ReferenceError)
  /-- A value in the schema is not what its keyword needs. -/
  | malformed (value : Json) (cause : Cause)
  deriving DecidableEq

def BuildError.message : BuildError → String
  | reference e => e.message
  | malformed value cause => cause.message value

/-- A reference and where it stands. -/
structure Reference where
  /-- Where it stands. -/
  scope : Scope
  /-- The keyword that holds it. -/
  keyword : String
  /-- What it says; nothing for a reference to the schema around it that schemas from which one came
  may take. -/
  text : Option String
  deriving DecidableEq

/-- Whether a reference leads to a schema with the very same reference. Such a one means nothing,
for following it would never come to an end. -/
def Reference.isLoop (r : Reference) (schema : Json) : Bool :=
  r.text.any fun text => schema.get? r.keyword == some (.str text)

/-- The schema that a reference leads to. -/
def Store.find (st : Store) (r : Reference) : Except ReferenceError Target :=
  match r.text with
  | some text => st.lookup r.scope text
  | none => st.lookupRecursive r.scope

/-- The schema that a reference means; nothing if it leads to itself. -/
def Store.target (st : Store) (r : Reference) : Except ReferenceError (Option Target) :=
  (st.find r).map fun t => if r.isLoop t.schema then none else some t

/-- Which members of an object a subschema is for. -/
inductive Selector where
  | name (name : String)
  | pattern (source : String) (pattern : Pattern)
  deriving DecidableEq

namespace Selector

/-- Whether the subschema is for the member with this name. -/
def selects : Selector → String → Bool
  | name n, key => n == key
  | pattern _ p, key => (p.matchesIn key).toOption == some true

/-- The steps to the subschema in a schema. -/
def keywords : Selector → List Json.Step
  | name n => [.key "properties", .key n]
  | pattern source _ => [.key "patternProperties", .key source]

end Selector

/-- A compiled schema. -/
inductive Node where
  /-- Allows everything. -/
  | always
  /-- Allows nothing. -/
  | never
  /-- Everything that the keywords of one schema ask, in turn. -/
  | all (parts : List Node)
  /-- What a keyword without subschemas asks. -/
  | check (keyword : String) (check : Check)
  /-- What the schema asks that a reference means. -/
  | ref (reference : Reference)
  /-- A subschema for each selected member. -/
  | select (entries : List (Selector × Node))
  /-- A subschema for each selected member, and no other members. -/
  | closed (entries : List (Selector × Node))
  /-- A subschema for each selected member, and one for all others. -/
  | others (entries : List (Selector × Node)) (other : Node)
  /-- A subschema for the name of each member. -/
  | names (name : Node)
  /-- A subschema for the items from an index on. -/
  | items (keyword : String) (start : Nat) (item : Node)
  /-- A subschema for each of the first items. -/
  | tuple (keyword : String) (items : List Node)
  /-- Nothing, but the first items, or all of them, count as evaluated. -/
  | covers (limit : Option Nat)
  /-- How many items match a subschema. -/
  | contains (item : Node) (least most : Option Nat)
  /-- Every one of some subschemas. -/
  | allOf (parts : List Node)
  /-- At least one of some subschemas. -/
  | anyOf (parts : List Node)
  /-- Exactly one of some subschemas. -/
  | oneOf (parts : List Node)
  /-- Not this subschema, which is kept as it was written. -/
  | negation (part : Node) (source : Json)
  /-- One of two subschemas, by whether a first one matches. -/
  | choice (condition yes no : Node)
  /-- A subschema for the object itself for each selected member that it has. -/
  | dependent (keyword : String) (entries : List (Selector × Node))
  /-- A subschema for the members that no keyword has evaluated. -/
  | unevaluatedMembers (other : Node)
  /-- A subschema for the items that no keyword has evaluated. -/
  | unevaluatedItems (other : Node)
  /-- A keyword that is unusable. -/
  | broken (error : BuildError)

instance : Inhabited Node := ⟨.always⟩

end DocCheck.Schema

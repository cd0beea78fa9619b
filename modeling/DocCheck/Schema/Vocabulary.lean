import DocCheck.Schema.Draft

/-!
# Vocabularies

From draft 2019-09 on the keywords of a draft come in groups, and a meta-schema may leave groups
out. A schema that names such a meta-schema is read without their keywords.

* `Vocabulary` — the groups that may be left out;
* `Vocabulary.ofKeyword?` — the group of a keyword in a draft;
* `Vocabularies` — sets of groups, and the set that a meta-schema chooses.
-/

namespace DocCheck.Schema

/-- The groups of keywords that may be left out. -/
inductive Vocabulary where
  /-- Keywords that apply subschemas. -/
  | applicator
  /-- Keywords that speak of what nothing has looked at. -/
  | unevaluated
  /-- Keywords that ask something of a value itself. -/
  | validation
  deriving DecidableEq

namespace Vocabulary

/-- The keywords of the first group. -/
def applicators : List String :=
  ["additionalItems", "additionalProperties", "allOf", "anyOf", "contains", "dependentSchemas",
    "if", "items", "not", "oneOf", "patternProperties", "prefixItems", "properties",
    "propertyNames"]

/-- The keywords of the last group. -/
def validations : List String :=
  ["const", "dependentRequired", "enum", "exclusiveMaximum", "exclusiveMinimum", "maxItems",
    "maxLength", "maxProperties", "maximum", "minItems", "minLength", "minProperties", "minimum",
    "multipleOf", "pattern", "required", "type", "uniqueItems"]

/-- The group of a keyword. Before draft 2020-12 the keywords that speak of what nothing has looked
at were not apart from those that apply subschemas. -/
def ofKeyword? (d : Draft) (keyword : String) : Option Vocabulary :=
  if applicators.contains keyword then some applicator
  else if validations.contains keyword then some validation
  else if keyword == "unevaluatedItems" || keyword == "unevaluatedProperties" then
    some (if d.atLeast .draft2020 then unevaluated else applicator)
  else none

/-- The last part of the URIs of a group. -/
def name : Vocabulary → String
  | applicator => "applicator"
  | unevaluated => "unevaluated"
  | validation => "validation"

/-- The URIs of a group, one for each draft with groups. -/
def uris (v : Vocabulary) : List String :=
  [Draft.draft2019, .draft2020].map fun d =>
    String.ofList (d.uri.toList.take (d.uri.length - "schema".length)) ++ "vocab/" ++ v.name

end Vocabulary

/-- Some groups of keywords. -/
structure Vocabularies where
  omitted : List Vocabulary
  deriving DecidableEq

namespace Vocabularies

def full : Vocabularies := ⟨[]⟩

/-- Whether a keyword of a draft is among some groups. Older drafts have no groups, and keywords
without a group are always there. -/
def has (vs : Vocabularies) (d : Draft) (keyword : String) : Bool :=
  !d.atLeast .draft2019
    || (Vocabulary.ofKeyword? d keyword).all fun v => !vs.omitted.contains v

@[simp] theorem full_has (d : Draft) (keyword : String) : full.has d keyword = true := by
  unfold has full
  cases Vocabulary.ofKeyword? d keyword <;> simp

/-- The groups that a meta-schema chooses, if it has a name and says something about them. -/
def ofMetaSchema? (schema : Json) : Option Vocabularies :=
  match (schema.get? "$id").bind Json.text?, schema.get? "$vocabulary" with
  | some _, some (.obj chosen) =>
    let isChosen (v : Vocabulary) :=
      v.uris.any fun uri => Json.lookup uri chosen == some (.bool true)
    some ⟨[.applicator, .unevaluated, .validation].filter fun v => !isChosen v⟩
  | _, _ => none

end Vocabularies

end DocCheck.Schema

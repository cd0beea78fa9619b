/-!
# Keywords that carry subschemas

How the value of a schema keyword holds further schemas. Values of all other keywords are data and
hold none.
-/

namespace DocCheck.Schema

/-- How the value of a keyword holds schemas. -/
inductive Carrier where
  /-- The value is a schema. -/
  | single
  /-- The value is a schema or a list of schemas. -/
  | singleOrList
  /-- The value is a list of schemas. -/
  | list
  /-- The value maps names to schemas. -/
  | named
  /-- The value holds no schema. -/
  | data
  deriving DecidableEq

namespace Carrier

/-- The keywords whose value is a schema. -/
def singleKeywords : List String :=
  ["additionalProperties", "additionalItems", "not", "if", "then", "else", "contains"]

/-- The keywords whose value is a list of schemas. -/
def listKeywords : List String := ["prefixItems", "allOf", "anyOf", "oneOf"]

/-- The keywords whose value maps names to schemas. The lists of names under `dependencies` hold no
schema. -/
def namedKeywords : List String :=
  ["properties", "patternProperties", "definitions", "$defs", "dependentSchemas", "dependencies"]

/-- How the value of this keyword holds schemas. -/
def ofKeyword (keyword : String) : Carrier :=
  if singleKeywords.contains keyword then .single
  else if keyword = "items" then .singleOrList
  else if listKeywords.contains keyword then .list
  else if namedKeywords.contains keyword then .named
  else .data

end Carrier

end DocCheck.Schema

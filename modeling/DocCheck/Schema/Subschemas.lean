import DocCheck.Json.Pointer
import DocCheck.Schema.Draft

/-!
# Subschemas

Which values inside a schema are schemas themselves. Only these can bring a URI or an anchor of
their own, and only their references are known before a schema is used.

* `Draft.subschemas` — the schemas directly below a schema;
* `Draft.isSchemaPlace` — whether a path leads to a subschema.
-/

namespace DocCheck.Schema.Draft

/-- The keywords whose value is a schema. -/
def valueKeywords (d : Draft) : List String :=
  match d with
  | draft4 => ["additionalItems", "additionalProperties", "not"]
  | draft6 =>
    ["additionalItems", "additionalProperties", "contains", "not", "propertyNames"]
  | draft7 =>
    ["additionalItems", "additionalProperties", "contains", "else", "if", "not", "propertyNames",
      "then"]
  | draft2019 =>
    ["additionalItems", "additionalProperties", "contains", "contentSchema", "else", "if", "not",
      "propertyNames", "then", "unevaluatedItems", "unevaluatedProperties"]
  | draft2020 =>
    ["additionalProperties", "contains", "contentSchema", "else", "if", "items", "not",
      "propertyNames", "then", "unevaluatedItems", "unevaluatedProperties"]

/-- The keywords whose value is a list of schemas. -/
def listKeywords (d : Draft) : List String :=
  if d = draft2020 then ["allOf", "anyOf", "oneOf", "prefixItems"] else ["allOf", "anyOf", "oneOf"]

/-- The keywords whose value maps names to schemas. -/
def mapKeywords (d : Draft) : List String :=
  if d.atLeast draft2019 then
    ["$defs", "definitions", "dependentSchemas", "patternProperties", "properties"]
  else ["definitions", "patternProperties", "properties"]

/-- Whether `items` may be one schema or a list of schemas. -/
def hasItemLists (d : Draft) : Bool := d != draft2020

/-- Whether `dependencies` may hold schemas. -/
def hasDependencies (d : Draft) : Bool := d.referenceHidesSiblings

/-- The schemas that a keyword and its value bring. -/
def memberSubschemas (d : Draft) (keyword : String) (value : Json) : List Json :=
  if d.valueKeywords.contains keyword then [value]
  else if d.listKeywords.contains keyword then
    match value with
    | .arr xs => xs
    | _ => []
  else if d.mapKeywords.contains keyword then value.members.map Prod.snd
  else if keyword = "items" && d.hasItemLists then
    match value with
    | .arr xs => xs
    | v => [v]
  else if keyword = "dependencies" && d.hasDependencies then
    (value.members.map Prod.snd).filter fun v => v.isObject
  else []

/-- The schemas directly below a schema, in the order of their keywords. -/
def subschemas (d : Draft) (schema : Json) : List Json :=
  schema.members.flatMap fun m => d.memberSubschemas m.1 m.2

/-- Whether a keyword that may hold schemas in more than one way leads to `target`, if that is an
object. -/
def isMixedPlace (d : Draft) (target : Json) (keyword : String) : Bool :=
  target.isObject
    && (keyword == "items" && d.hasItemLists || keyword == "dependencies" && d.hasDependencies)

/-- Whether a path leads from a schema to a subschema of it, which is the value `target`. -/
def isSchemaPlace (d : Draft) (target : Json) : List Json.Step → Bool
  | [] => true
  | .index _ :: rest => isSchemaPlace d target rest
  | [.key k] => d.isMixedPlace target k || d.valueKeywords.contains k
  | .key k :: s :: rest =>
    d.isMixedPlace target k
      || (if d.valueKeywords.contains k then isSchemaPlace d target (s :: rest)
        else if d.listKeywords.contains k || d.mapKeywords.contains k then
          isSchemaPlace d target rest
        else false)

end DocCheck.Schema.Draft

import DocCheck.Json.Basic

/-!
# The meta-schemas of draft 2020-12

The schema that every schema of this draft has to match, and one schema per vocabulary to which it
refers. A subschema is checked against the outermost of them.
-/

namespace DocCheck.Schema.Meta

def draft2020 : Json := .obj [
  ("$dynamicAnchor", .str "meta"),
  ("$id", .str "https://json-schema.org/draft/2020-12/schema"),
  ("$schema", .str "https://json-schema.org/draft/2020-12/schema"),
  ("$vocabulary", .obj [
    ("https://json-schema.org/draft/2020-12/vocab/applicator", .bool true),
    ("https://json-schema.org/draft/2020-12/vocab/content", .bool true),
    ("https://json-schema.org/draft/2020-12/vocab/core", .bool true),
    ("https://json-schema.org/draft/2020-12/vocab/format-annotation", .bool true),
    ("https://json-schema.org/draft/2020-12/vocab/meta-data", .bool true),
    ("https://json-schema.org/draft/2020-12/vocab/unevaluated", .bool true),
    ("https://json-schema.org/draft/2020-12/vocab/validation", .bool true)]),
  ("allOf", .arr [
    .obj [("$ref", .str "meta/core")],
    .obj [("$ref", .str "meta/applicator")],
    .obj [("$ref", .str "meta/unevaluated")],
    .obj [("$ref", .str "meta/validation")],
    .obj [("$ref", .str "meta/meta-data")],
    .obj [("$ref", .str "meta/format-annotation")],
    .obj [("$ref", .str "meta/content")]]),
  ("properties", .obj [
    ("$recursiveAnchor", .obj [
      ("$ref", .str "meta/core#/$defs/anchorString"),
      ("deprecated", .bool true)]),
    ("$recursiveRef", .obj [
      ("$ref", .str "meta/core#/$defs/uriReferenceString"),
      ("deprecated", .bool true)]),
    ("definitions", .obj [
      ("additionalProperties", .obj [("$dynamicRef", .str "#meta")]),
      ("default", .obj []),
      ("deprecated", .bool true),
      ("type", .str "object")]),
    ("dependencies", .obj [
      ("additionalProperties", .obj [
        ("anyOf", .arr [
          .obj [("$dynamicRef", .str "#meta")],
          .obj [("$ref", .str "meta/validation#/$defs/stringArray")]])]),
      ("default", .obj []),
      ("deprecated", .bool true),
      ("type", .str "object")])]),
  ("title", .str "Core and Validation specifications meta-schema"),
  ("type", .arr [.str "object", .str "boolean"])]

/-- Keywords that name and refer to schemas. -/
def core2020 : Json := .obj [
  ("$defs", .obj [
    ("anchorString", .obj [
      ("pattern", .str "^[A-Za-z_][-A-Za-z0-9._]*$"),
      ("type", .str "string")]),
    ("uriReferenceString", .obj [("format", .str "uri-reference"), ("type", .str "string")]),
    ("uriString", .obj [("format", .str "uri"), ("type", .str "string")])]),
  ("$dynamicAnchor", .str "meta"),
  ("$id", .str "https://json-schema.org/draft/2020-12/meta/core"),
  ("$schema", .str "https://json-schema.org/draft/2020-12/schema"),
  ("$vocabulary", .obj [("https://json-schema.org/draft/2020-12/vocab/core", .bool true)]),
  ("properties", .obj [
    ("$anchor", .obj [("$ref", .str "#/$defs/anchorString")]),
    ("$comment", .obj [("type", .str "string")]),
    ("$defs", .obj [
      ("additionalProperties", .obj [("$dynamicRef", .str "#meta")]),
      ("type", .str "object")]),
    ("$dynamicAnchor", .obj [("$ref", .str "#/$defs/anchorString")]),
    ("$dynamicRef", .obj [("$ref", .str "#/$defs/uriReferenceString")]),
    ("$id", .obj [
      ("$comment", .str "Non-empty fragments not allowed."),
      ("$ref", .str "#/$defs/uriReferenceString"),
      ("pattern", .str "^[^#]*#?$")]),
    ("$ref", .obj [("$ref", .str "#/$defs/uriReferenceString")]),
    ("$schema", .obj [("$ref", .str "#/$defs/uriString")]),
    ("$vocabulary", .obj [
      ("additionalProperties", .obj [("type", .str "boolean")]),
      ("propertyNames", .obj [("$ref", .str "#/$defs/uriString")]),
      ("type", .str "object")])]),
  ("title", .str "Core vocabulary meta-schema"),
  ("type", .arr [.str "object", .str "boolean"])]

def applicator2020 : Json := .obj [
  ("$defs", .obj [
    ("schemaArray", .obj [
      ("items", .obj [("$dynamicRef", .str "#meta")]),
      ("minItems", .num (.int 1)),
      ("type", .str "array")])]),
  ("$dynamicAnchor", .str "meta"),
  ("$id", .str "https://json-schema.org/draft/2020-12/meta/applicator"),
  ("$schema", .str "https://json-schema.org/draft/2020-12/schema"),
  ("$vocabulary", .obj [
    ("https://json-schema.org/draft/2020-12/vocab/applicator", .bool true)]),
  ("properties", .obj [
    ("additionalProperties", .obj [("$dynamicRef", .str "#meta")]),
    ("allOf", .obj [("$ref", .str "#/$defs/schemaArray")]),
    ("anyOf", .obj [("$ref", .str "#/$defs/schemaArray")]),
    ("contains", .obj [("$dynamicRef", .str "#meta")]),
    ("dependentSchemas", .obj [
      ("additionalProperties", .obj [("$dynamicRef", .str "#meta")]),
      ("default", .obj []),
      ("type", .str "object")]),
    ("else", .obj [("$dynamicRef", .str "#meta")]),
    ("if", .obj [("$dynamicRef", .str "#meta")]),
    ("items", .obj [("$dynamicRef", .str "#meta")]),
    ("not", .obj [("$dynamicRef", .str "#meta")]),
    ("oneOf", .obj [("$ref", .str "#/$defs/schemaArray")]),
    ("patternProperties", .obj [
      ("additionalProperties", .obj [("$dynamicRef", .str "#meta")]),
      ("default", .obj []),
      ("propertyNames", .obj [("format", .str "regex")]),
      ("type", .str "object")]),
    ("prefixItems", .obj [("$ref", .str "#/$defs/schemaArray")]),
    ("properties", .obj [
      ("additionalProperties", .obj [("$dynamicRef", .str "#meta")]),
      ("default", .obj []),
      ("type", .str "object")]),
    ("propertyNames", .obj [("$dynamicRef", .str "#meta")]),
    ("then", .obj [("$dynamicRef", .str "#meta")])]),
  ("title", .str "Applicator vocabulary meta-schema"),
  ("type", .arr [.str "object", .str "boolean"])]

/-- Keywords about what no other keyword has evaluated. -/
def unevaluated2020 : Json := .obj [
  ("$dynamicAnchor", .str "meta"),
  ("$id", .str "https://json-schema.org/draft/2020-12/meta/unevaluated"),
  ("$schema", .str "https://json-schema.org/draft/2020-12/schema"),
  ("$vocabulary", .obj [
    ("https://json-schema.org/draft/2020-12/vocab/unevaluated", .bool true)]),
  ("properties", .obj [
    ("unevaluatedItems", .obj [("$dynamicRef", .str "#meta")]),
    ("unevaluatedProperties", .obj [("$dynamicRef", .str "#meta")])]),
  ("title", .str "Unevaluated applicator vocabulary meta-schema"),
  ("type", .arr [.str "object", .str "boolean"])]

/-- Keywords that assert something about a value. -/
def validation2020 : Json := .obj [
  ("$defs", .obj [
    ("nonNegativeInteger", .obj [("minimum", .num (.int 0)), ("type", .str "integer")]),
    ("nonNegativeIntegerDefault0", .obj [
      ("$ref", .str "#/$defs/nonNegativeInteger"),
      ("default", .num (.int 0))]),
    ("simpleTypes", .obj [
      ("enum", .arr [
        .str "array",
        .str "boolean",
        .str "integer",
        .str "null",
        .str "number",
        .str "object",
        .str "string"])]),
    ("stringArray", .obj [
      ("default", .arr []),
      ("items", .obj [("type", .str "string")]),
      ("type", .str "array"),
      ("uniqueItems", .bool true)])]),
  ("$dynamicAnchor", .str "meta"),
  ("$id", .str "https://json-schema.org/draft/2020-12/meta/validation"),
  ("$schema", .str "https://json-schema.org/draft/2020-12/schema"),
  ("$vocabulary", .obj [
    ("https://json-schema.org/draft/2020-12/vocab/validation", .bool true)]),
  ("properties", .obj [
    ("const", .bool true),
    ("dependentRequired", .obj [
      ("additionalProperties", .obj [("$ref", .str "#/$defs/stringArray")]),
      ("type", .str "object")]),
    ("enum", .obj [("items", .bool true), ("type", .str "array")]),
    ("exclusiveMaximum", .obj [("type", .str "number")]),
    ("exclusiveMinimum", .obj [("type", .str "number")]),
    ("maxContains", .obj [("$ref", .str "#/$defs/nonNegativeInteger")]),
    ("maxItems", .obj [("$ref", .str "#/$defs/nonNegativeInteger")]),
    ("maxLength", .obj [("$ref", .str "#/$defs/nonNegativeInteger")]),
    ("maxProperties", .obj [("$ref", .str "#/$defs/nonNegativeInteger")]),
    ("maximum", .obj [("type", .str "number")]),
    ("minContains", .obj [
      ("$ref", .str "#/$defs/nonNegativeInteger"),
      ("default", .num (.int 1))]),
    ("minItems", .obj [("$ref", .str "#/$defs/nonNegativeIntegerDefault0")]),
    ("minLength", .obj [("$ref", .str "#/$defs/nonNegativeIntegerDefault0")]),
    ("minProperties", .obj [("$ref", .str "#/$defs/nonNegativeIntegerDefault0")]),
    ("minimum", .obj [("type", .str "number")]),
    ("multipleOf", .obj [("exclusiveMinimum", .num (.int 0)), ("type", .str "number")]),
    ("pattern", .obj [("format", .str "regex"), ("type", .str "string")]),
    ("required", .obj [("$ref", .str "#/$defs/stringArray")]),
    ("type", .obj [
      ("anyOf", .arr [
        .obj [("$ref", .str "#/$defs/simpleTypes")],
        .obj [
          ("items", .obj [("$ref", .str "#/$defs/simpleTypes")]),
          ("minItems", .num (.int 1)),
          ("type", .str "array"),
          ("uniqueItems", .bool true)]])]),
    ("uniqueItems", .obj [("default", .bool false), ("type", .str "boolean")])]),
  ("title", .str "Validation vocabulary meta-schema"),
  ("type", .arr [.str "object", .str "boolean"])]

def metaData2020 : Json := .obj [
  ("$dynamicAnchor", .str "meta"),
  ("$id", .str "https://json-schema.org/draft/2020-12/meta/meta-data"),
  ("$schema", .str "https://json-schema.org/draft/2020-12/schema"),
  ("$vocabulary", .obj [
    ("https://json-schema.org/draft/2020-12/vocab/meta-data", .bool true)]),
  ("properties", .obj [
    ("default", .bool true),
    ("deprecated", .obj [("default", .bool false), ("type", .str "boolean")]),
    ("description", .obj [("type", .str "string")]),
    ("examples", .obj [("items", .bool true), ("type", .str "array")]),
    ("readOnly", .obj [("default", .bool false), ("type", .str "boolean")]),
    ("title", .obj [("type", .str "string")]),
    ("writeOnly", .obj [("default", .bool false), ("type", .str "boolean")])]),
  ("title", .str "Meta-data vocabulary meta-schema"),
  ("type", .arr [.str "object", .str "boolean"])]

/-- The keyword `format`. -/
def format2020 : Json := .obj [
  ("$dynamicAnchor", .str "meta"),
  ("$id", .str "https://json-schema.org/draft/2020-12/meta/format-annotation"),
  ("$schema", .str "https://json-schema.org/draft/2020-12/schema"),
  ("$vocabulary", .obj [
    ("https://json-schema.org/draft/2020-12/vocab/format-annotation", .bool true)]),
  ("properties", .obj [("format", .obj [("type", .str "string")])]),
  ("title", .str "Format vocabulary meta-schema for annotation results"),
  ("type", .arr [.str "object", .str "boolean"])]

/-- Keywords about the content of strings. -/
def content2020 : Json := .obj [
  ("$dynamicAnchor", .str "meta"),
  ("$id", .str "https://json-schema.org/draft/2020-12/meta/content"),
  ("$schema", .str "https://json-schema.org/draft/2020-12/schema"),
  ("$vocabulary", .obj [("https://json-schema.org/draft/2020-12/vocab/content", .bool true)]),
  ("properties", .obj [
    ("contentEncoding", .obj [("type", .str "string")]),
    ("contentMediaType", .obj [("type", .str "string")]),
    ("contentSchema", .obj [("$dynamicRef", .str "#meta")])]),
  ("title", .str "Content vocabulary meta-schema"),
  ("type", .arr [.str "object", .str "boolean"])]

end DocCheck.Schema.Meta

import DocCheck.Json.Basic

/-!
# The meta-schemas of draft 2019-09

The schema that every schema of this draft has to match, and one schema per vocabulary to which it
refers. A subschema is checked against the outermost of them.
-/

namespace DocCheck.Schema.Meta

def draft2019 : Json := .obj [
  ("$id", .str "https://json-schema.org/draft/2019-09/schema"),
  ("$recursiveAnchor", .bool true),
  ("$schema", .str "https://json-schema.org/draft/2019-09/schema"),
  ("$vocabulary", .obj [
    ("https://json-schema.org/draft/2019-09/vocab/applicator", .bool true),
    ("https://json-schema.org/draft/2019-09/vocab/content", .bool true),
    ("https://json-schema.org/draft/2019-09/vocab/core", .bool true),
    ("https://json-schema.org/draft/2019-09/vocab/format", .bool false),
    ("https://json-schema.org/draft/2019-09/vocab/meta-data", .bool true),
    ("https://json-schema.org/draft/2019-09/vocab/validation", .bool true)]),
  ("allOf", .arr [
    .obj [("$ref", .str "meta/core")],
    .obj [("$ref", .str "meta/applicator")],
    .obj [("$ref", .str "meta/validation")],
    .obj [("$ref", .str "meta/meta-data")],
    .obj [("$ref", .str "meta/format")],
    .obj [("$ref", .str "meta/content")]]),
  ("properties", .obj [
    ("definitions", .obj [
      ("additionalProperties", .obj [("$recursiveRef", .str "#")]),
      ("default", .obj []),
      ("type", .str "object")]),
    ("dependencies", .obj [
      ("additionalProperties", .obj [
        ("anyOf", .arr [
          .obj [("$recursiveRef", .str "#")],
          .obj [("$ref", .str "meta/validation#/$defs/stringArray")]])]),
      ("type", .str "object")])]),
  ("title", .str "Core and Validation specifications meta-schema"),
  ("type", .arr [.str "object", .str "boolean"])]

/-- Keywords that name and refer to schemas. -/
def core2019 : Json := .obj [
  ("$id", .str "https://json-schema.org/draft/2019-09/meta/core"),
  ("$recursiveAnchor", .bool true),
  ("$schema", .str "https://json-schema.org/draft/2019-09/schema"),
  ("$vocabulary", .obj [("https://json-schema.org/draft/2019-09/vocab/core", .bool true)]),
  ("properties", .obj [
    ("$anchor", .obj [
      ("pattern", .str "^[A-Za-z][-A-Za-z0-9.:_]*$"),
      ("type", .str "string")]),
    ("$comment", .obj [("type", .str "string")]),
    ("$defs", .obj [
      ("additionalProperties", .obj [("$recursiveRef", .str "#")]),
      ("default", .obj []),
      ("type", .str "object")]),
    ("$id", .obj [
      ("$comment", .str "Non-empty fragments not allowed."),
      ("format", .str "uri-reference"),
      ("pattern", .str "^[^#]*#?$"),
      ("type", .str "string")]),
    ("$recursiveAnchor", .obj [("default", .bool false), ("type", .str "boolean")]),
    ("$recursiveRef", .obj [("format", .str "uri-reference"), ("type", .str "string")]),
    ("$ref", .obj [("format", .str "uri-reference"), ("type", .str "string")]),
    ("$schema", .obj [("format", .str "uri"), ("type", .str "string")]),
    ("$vocabulary", .obj [
      ("additionalProperties", .obj [("type", .str "boolean")]),
      ("propertyNames", .obj [("format", .str "uri"), ("type", .str "string")]),
      ("type", .str "object")])]),
  ("title", .str "Core vocabulary meta-schema"),
  ("type", .arr [.str "object", .str "boolean"])]

def applicator2019 : Json := .obj [
  ("$defs", .obj [
    ("schemaArray", .obj [
      ("items", .obj [("$recursiveRef", .str "#")]),
      ("minItems", .num (.int 1)),
      ("type", .str "array")])]),
  ("$id", .str "https://json-schema.org/draft/2019-09/meta/applicator"),
  ("$recursiveAnchor", .bool true),
  ("$schema", .str "https://json-schema.org/draft/2019-09/schema"),
  ("$vocabulary", .obj [
    ("https://json-schema.org/draft/2019-09/vocab/applicator", .bool true)]),
  ("properties", .obj [
    ("additionalItems", .obj [("$recursiveRef", .str "#")]),
    ("additionalProperties", .obj [("$recursiveRef", .str "#")]),
    ("allOf", .obj [("$ref", .str "#/$defs/schemaArray")]),
    ("anyOf", .obj [("$ref", .str "#/$defs/schemaArray")]),
    ("contains", .obj [("$recursiveRef", .str "#")]),
    ("dependentSchemas", .obj [
      ("additionalProperties", .obj [("$recursiveRef", .str "#")]),
      ("type", .str "object")]),
    ("else", .obj [("$recursiveRef", .str "#")]),
    ("if", .obj [("$recursiveRef", .str "#")]),
    ("items", .obj [
      ("anyOf", .arr [
        .obj [("$recursiveRef", .str "#")],
        .obj [("$ref", .str "#/$defs/schemaArray")]])]),
    ("not", .obj [("$recursiveRef", .str "#")]),
    ("oneOf", .obj [("$ref", .str "#/$defs/schemaArray")]),
    ("patternProperties", .obj [
      ("additionalProperties", .obj [("$recursiveRef", .str "#")]),
      ("default", .obj []),
      ("propertyNames", .obj [("format", .str "regex")]),
      ("type", .str "object")]),
    ("properties", .obj [
      ("additionalProperties", .obj [("$recursiveRef", .str "#")]),
      ("default", .obj []),
      ("type", .str "object")]),
    ("propertyNames", .obj [("$recursiveRef", .str "#")]),
    ("then", .obj [("$recursiveRef", .str "#")]),
    ("unevaluatedItems", .obj [("$recursiveRef", .str "#")]),
    ("unevaluatedProperties", .obj [("$recursiveRef", .str "#")])]),
  ("title", .str "Applicator vocabulary meta-schema"),
  ("type", .arr [.str "object", .str "boolean"])]

/-- Keywords that assert something about a value. -/
def validation2019 : Json := .obj [
  ("$defs", .obj [
    ("nonNegativeInteger", .obj [("minimum", .num (.int 0)), ("type", .str "integer")]),
    ("nonNegativeIntegerDefault0", .obj [
      ("$ref", .str "#/$defs/nonNegativeInteger"),
      ("default", .num (.int 0))]),
    ("simpleTypes", .obj [
      ("enum", .arr [
        .str "array",
        .str "boolean",
        .str "integer",
        .str "null",
        .str "number",
        .str "object",
        .str "string"])]),
    ("stringArray", .obj [
      ("default", .arr []),
      ("items", .obj [("type", .str "string")]),
      ("type", .str "array"),
      ("uniqueItems", .bool true)])]),
  ("$id", .str "https://json-schema.org/draft/2019-09/meta/validation"),
  ("$recursiveAnchor", .bool true),
  ("$schema", .str "https://json-schema.org/draft/2019-09/schema"),
  ("$vocabulary", .obj [
    ("https://json-schema.org/draft/2019-09/vocab/validation", .bool true)]),
  ("properties", .obj [
    ("const", .bool true),
    ("dependentRequired", .obj [
      ("additionalProperties", .obj [("$ref", .str "#/$defs/stringArray")]),
      ("type", .str "object")]),
    ("enum", .obj [("items", .bool true), ("type", .str "array")]),
    ("exclusiveMaximum", .obj [("type", .str "number")]),
    ("exclusiveMinimum", .obj [("type", .str "number")]),
    ("maxContains", .obj [("$ref", .str "#/$defs/nonNegativeInteger")]),
    ("maxItems", .obj [("$ref", .str "#/$defs/nonNegativeInteger")]),
    ("maxLength", .obj [("$ref", .str "#/$defs/nonNegativeInteger")]),
    ("maxProperties", .obj [("$ref", .str "#/$defs/nonNegativeInteger")]),
    ("maximum", .obj [("type", .str "number")]),
    ("minContains", .obj [
      ("$ref", .str "#/$defs/nonNegativeInteger"),
      ("default", .num (.int 1))]),
    ("minItems", .obj [("$ref", .str "#/$defs/nonNegativeIntegerDefault0")]),
    ("minLength", .obj [("$ref", .str "#/$defs/nonNegativeIntegerDefault0")]),
    ("minProperties", .obj [("$ref", .str "#/$defs/nonNegativeIntegerDefault0")]),
    ("minimum", .obj [("type", .str "number")]),
    ("multipleOf", .obj [("exclusiveMinimum", .num (.int 0)), ("type", .str "number")]),
    ("pattern", .obj [("format", .str "regex"), ("type", .str "string")]),
    ("required", .obj [("$ref", .str "#/$defs/stringArray")]),
    ("type", .obj [
      ("anyOf", .arr [
        .obj [("$ref", .str "#/$defs/simpleTypes")],
        .obj [
          ("items", .obj [("$ref", .str "#/$defs/simpleTypes")]),
          ("minItems", .num (.int 1)),
          ("type", .str "array"),
          ("uniqueItems", .bool true)]])]),
    ("uniqueItems", .obj [("default", .bool false), ("type", .str "boolean")])]),
  ("title", .str "Validation vocabulary meta-schema"),
  ("type", .arr [.str "object", .str "boolean"])]

def metaData2019 : Json := .obj [
  ("$id", .str "https://json-schema.org/draft/2019-09/meta/meta-data"),
  ("$recursiveAnchor", .bool true),
  ("$schema", .str "https://json-schema.org/draft/2019-09/schema"),
  ("$vocabulary", .obj [
    ("https://json-schema.org/draft/2019-09/vocab/meta-data", .bool true)]),
  ("properties", .obj [
    ("default", .bool true),
    ("deprecated", .obj [("default", .bool false), ("type", .str "boolean")]),
    ("description", .obj [("type", .str "string")]),
    ("examples", .obj [("items", .bool true), ("type", .str "array")]),
    ("readOnly", .obj [("default", .bool false), ("type", .str "boolean")]),
    ("title", .obj [("type", .str "string")]),
    ("writeOnly", .obj [("default", .bool false), ("type", .str "boolean")])]),
  ("title", .str "Meta-data vocabulary meta-schema"),
  ("type", .arr [.str "object", .str "boolean"])]

/-- The keyword `format`. -/
def format2019 : Json := .obj [
  ("$id", .str "https://json-schema.org/draft/2019-09/meta/format"),
  ("$recursiveAnchor", .bool true),
  ("$schema", .str "https://json-schema.org/draft/2019-09/schema"),
  ("$vocabulary", .obj [("https://json-schema.org/draft/2019-09/vocab/format", .bool true)]),
  ("properties", .obj [("format", .obj [("type", .str "string")])]),
  ("title", .str "Format vocabulary meta-schema"),
  ("type", .arr [.str "object", .str "boolean"])]

/-- Keywords about the content of strings. -/
def content2019 : Json := .obj [
  ("$id", .str "https://json-schema.org/draft/2019-09/meta/content"),
  ("$recursiveAnchor", .bool true),
  ("$schema", .str "https://json-schema.org/draft/2019-09/schema"),
  ("$vocabulary", .obj [("https://json-schema.org/draft/2019-09/vocab/content", .bool true)]),
  ("properties", .obj [
    ("contentEncoding", .obj [("type", .str "string")]),
    ("contentMediaType", .obj [("type", .str "string")]),
    ("contentSchema", .obj [("$recursiveRef", .str "#")])]),
  ("title", .str "Content vocabulary meta-schema"),
  ("type", .arr [.str "object", .str "boolean"])]

end DocCheck.Schema.Meta

import DocCheck.Json.Basic

/-!
# The meta-schema of draft 6

The schema that every draft 6 schema has to match.
-/

namespace DocCheck.Schema.Meta

def draft6 : Json := .obj [
  ("$id", .str "http://json-schema.org/draft-06/schema#"),
  ("$schema", .str "http://json-schema.org/draft-06/schema#"),
  ("default", .obj []),
  ("definitions", .obj [
    ("nonNegativeInteger", .obj [("minimum", .num (.int 0)), ("type", .str "integer")]),
    ("nonNegativeIntegerDefault0", .obj [
      ("allOf", .arr [
        .obj [("$ref", .str "#/definitions/nonNegativeInteger")],
        .obj [("default", .num (.int 0))]])]),
    ("schemaArray", .obj [
      ("items", .obj [("$ref", .str "#")]),
      ("minItems", .num (.int 1)),
      ("type", .str "array")]),
    ("simpleTypes", .obj [
      ("enum", .arr [
        .str "array",
        .str "boolean",
        .str "integer",
        .str "null",
        .str "number",
        .str "object",
        .str "string"])]),
    ("stringArray", .obj [
      ("default", .arr []),
      ("items", .obj [("type", .str "string")]),
      ("type", .str "array"),
      ("uniqueItems", .bool true)])]),
  ("properties", .obj [
    ("$id", .obj [("format", .str "uri-reference"), ("type", .str "string")]),
    ("$ref", .obj [("format", .str "uri-reference"), ("type", .str "string")]),
    ("$schema", .obj [("format", .str "uri"), ("type", .str "string")]),
    ("additionalItems", .obj [("$ref", .str "#")]),
    ("additionalProperties", .obj [("$ref", .str "#")]),
    ("allOf", .obj [("$ref", .str "#/definitions/schemaArray")]),
    ("anyOf", .obj [("$ref", .str "#/definitions/schemaArray")]),
    ("const", .obj []),
    ("contains", .obj [("$ref", .str "#")]),
    ("default", .obj []),
    ("definitions", .obj [
      ("additionalProperties", .obj [("$ref", .str "#")]),
      ("default", .obj []),
      ("type", .str "object")]),
    ("dependencies", .obj [
      ("additionalProperties", .obj [
        ("anyOf", .arr [
          .obj [("$ref", .str "#")],
          .obj [("$ref", .str "#/definitions/stringArray")]])]),
      ("type", .str "object")]),
    ("description", .obj [("type", .str "string")]),
    ("enum", .obj [("type", .str "array")]),
    ("examples", .obj [("items", .obj []), ("type", .str "array")]),
    ("exclusiveMaximum", .obj [("type", .str "number")]),
    ("exclusiveMinimum", .obj [("type", .str "number")]),
    ("format", .obj [("type", .str "string")]),
    ("items", .obj [
      ("anyOf", .arr [
        .obj [("$ref", .str "#")],
        .obj [("$ref", .str "#/definitions/schemaArray")]]),
      ("default", .obj [])]),
    ("maxItems", .obj [("$ref", .str "#/definitions/nonNegativeInteger")]),
    ("maxLength", .obj [("$ref", .str "#/definitions/nonNegativeInteger")]),
    ("maxProperties", .obj [("$ref", .str "#/definitions/nonNegativeInteger")]),
    ("maximum", .obj [("type", .str "number")]),
    ("minItems", .obj [("$ref", .str "#/definitions/nonNegativeIntegerDefault0")]),
    ("minLength", .obj [("$ref", .str "#/definitions/nonNegativeIntegerDefault0")]),
    ("minProperties", .obj [("$ref", .str "#/definitions/nonNegativeIntegerDefault0")]),
    ("minimum", .obj [("type", .str "number")]),
    ("multipleOf", .obj [("exclusiveMinimum", .num (.int 0)), ("type", .str "number")]),
    ("not", .obj [("$ref", .str "#")]),
    ("oneOf", .obj [("$ref", .str "#/definitions/schemaArray")]),
    ("pattern", .obj [("format", .str "regex"), ("type", .str "string")]),
    ("patternProperties", .obj [
      ("additionalProperties", .obj [("$ref", .str "#")]),
      ("default", .obj []),
      ("propertyNames", .obj [("format", .str "regex")]),
      ("type", .str "object")]),
    ("properties", .obj [
      ("additionalProperties", .obj [("$ref", .str "#")]),
      ("default", .obj []),
      ("type", .str "object")]),
    ("propertyNames", .obj [("$ref", .str "#")]),
    ("required", .obj [("$ref", .str "#/definitions/stringArray")]),
    ("title", .obj [("type", .str "string")]),
    ("type", .obj [
      ("anyOf", .arr [
        .obj [("$ref", .str "#/definitions/simpleTypes")],
        .obj [
          ("items", .obj [("$ref", .str "#/definitions/simpleTypes")]),
          ("minItems", .num (.int 1)),
          ("type", .str "array"),
          ("uniqueItems", .bool true)]])]),
    ("uniqueItems", .obj [("default", .bool false), ("type", .str "boolean")])]),
  ("title", .str "Core schema meta-schema"),
  ("type", .arr [.str "object", .str "boolean"])]

end DocCheck.Schema.Meta

import DocCheck.Json.Basic

/-!
# The meta-schema of draft 7

The schema that every draft 7 schema has to match.
-/

namespace DocCheck.Schema.Meta

def draft7 : Json := .obj [
  ("$id", .str "http://json-schema.org/draft-07/schema#"),
  ("$schema", .str "http://json-schema.org/draft-07/schema#"),
  ("default", .bool true),
  ("definitions", .obj [
    ("nonNegativeInteger", .obj [("minimum", .num (.int 0)), ("type", .str "integer")]),
    ("nonNegativeIntegerDefault0", .obj [
      ("allOf", .arr [
        .obj [("$ref", .str "#/definitions/nonNegativeInteger")],
        .obj [("default", .num (.int 0))]])]),
    ("schemaArray", .obj [
      ("items", .obj [("$ref", .str "#")]),
      ("minItems", .num (.int 1)),
      ("type", .str "array")]),
    ("simpleTypes", .obj [
      ("enum", .arr [
        .str "array",
        .str "boolean",
        .str "integer",
        .str "null",
        .str "number",
        .str "object",
        .str "string"])]),
    ("stringArray", .obj [
      ("default", .arr []),
      ("items", .obj [("type", .str "string")]),
      ("type", .str "array"),
      ("uniqueItems", .bool true)])]),
  ("properties", .obj [
    ("$comment", .obj [("type", .str "string")]),
    ("$id", .obj [("format", .str "uri-reference"), ("type", .str "string")]),
    ("$ref", .obj [("format", .str "uri-reference"), ("type", .str "string")]),
    ("$schema", .obj [("format", .str "uri"), ("type", .str "string")]),
    ("additionalItems", .obj [("$ref", .str "#")]),
    ("additionalProperties", .obj [("$ref", .str "#")]),
    ("allOf", .obj [("$ref", .str "#/definitions/schemaArray")]),
    ("anyOf", .obj [("$ref", .str "#/definitions/schemaArray")]),
    ("const", .bool true),
    ("contains", .obj [("$ref", .str "#")]),
    ("contentEncoding", .obj [("type", .str "string")]),
    ("contentMediaType", .obj [("type", .str "string")]),
    ("default", .bool true),
    ("definitions", .obj [
      ("additionalProperties", .obj [("$ref", .str "#")]),
      ("default", .obj []),
      ("type", .str "object")]),
    ("dependencies", .obj [
      ("additionalProperties", .obj [
        ("anyOf", .arr [
          .obj [("$ref", .str "#")],
          .obj [("$ref", .str "#/definitions/stringArray")]])]),
      ("type", .str "object")]),
    ("description", .obj [("type", .str "string")]),
    ("else", .obj [("$ref", .str "#")]),
    ("enum", .obj [("items", .bool true), ("type", .str "array")]),
    ("examples", .obj [("items", .bool true), ("type", .str "array")]),
    ("exclusiveMaximum", .obj [("type", .str "number")]),
    ("exclusiveMinimum", .obj [("type", .str "number")]),
    ("format", .obj [("type", .str "string")]),
    ("if", .obj [("$ref", .str "#")]),
    ("items", .obj [
      ("anyOf", .arr [
        .obj [("$ref", .str "#")],
        .obj [("$ref", .str "#/definitions/schemaArray")]]),
      ("default", .bool true)]),
    ("maxItems", .obj [("$ref", .str "#/definitions/nonNegativeInteger")]),
    ("maxLength", .obj [("$ref", .str "#/definitions/nonNegativeInteger")]),
    ("maxProperties", .obj [("$ref", .str "#/definitions/nonNegativeInteger")]),
    ("maximum", .obj [("type", .str "number")]),
    ("minItems", .obj [("$ref", .str "#/definitions/nonNegativeIntegerDefault0")]),
    ("minLength", .obj [("$ref", .str "#/definitions/nonNegativeIntegerDefault0")]),
    ("minProperties", .obj [("$ref", .str "#/definitions/nonNegativeIntegerDefault0")]),
    ("minimum", .obj [("type", .str "number")]),
    ("multipleOf", .obj [("exclusiveMinimum", .num (.int 0)), ("type", .str "number")]),
    ("not", .obj [("$ref", .str "#")]),
    ("oneOf", .obj [("$ref", .str "#/definitions/schemaArray")]),
    ("pattern", .obj [("format", .str "regex"), ("type", .str "string")]),
    ("patternProperties", .obj [
      ("additionalProperties", .obj [("$ref", .str "#")]),
      ("default", .obj []),
      ("propertyNames", .obj [("format", .str "regex")]),
      ("type", .str "object")]),
    ("properties", .obj [
      ("additionalProperties", .obj [("$ref", .str "#")]),
      ("default", .obj []),
      ("type", .str "object")]),
    ("propertyNames", .obj [("$ref", .str "#")]),
    ("readOnly", .obj [("default", .bool false), ("type", .str "boolean")]),
    ("required", .obj [("$ref", .str "#/definitions/stringArray")]),
    ("then", .obj [("$ref", .str "#")]),
    ("title", .obj [("type", .str "string")]),
    ("type", .obj [
      ("anyOf", .arr [
        .obj [("$ref", .str "#/definitions/simpleTypes")],
        .obj [
          ("items", .obj [("$ref", .str "#/definitions/simpleTypes")]),
          ("minItems", .num (.int 1)),
          ("type", .str "array"),
          ("uniqueItems", .bool true)]])]),
    ("uniqueItems", .obj [("default", .bool false), ("type", .str "boolean")])]),
  ("title", .str "Core schema meta-schema"),
  ("type", .arr [.str "object", .str "boolean"])]

end DocCheck.Schema.Meta

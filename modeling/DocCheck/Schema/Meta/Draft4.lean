import DocCheck.Json.Basic

/-!
# The meta-schema of draft 4

The schema that every draft 4 schema has to match.
-/

namespace DocCheck.Schema.Meta

def draft4 : Json := .obj [
  ("$schema", .str "http://json-schema.org/draft-04/schema#"),
  ("default", .obj []),
  ("definitions", .obj [
    ("positiveInteger", .obj [("minimum", .num (.int 0)), ("type", .str "integer")]),
    ("positiveIntegerDefault0", .obj [
      ("allOf", .arr [
        .obj [("$ref", .str "#/definitions/positiveInteger")],
        .obj [("default", .num (.int 0))]])]),
    ("schemaArray", .obj [
      ("items", .obj [("$ref", .str "#")]),
      ("minItems", .num (.int 1)),
      ("type", .str "array")]),
    ("simpleTypes", .obj [
      ("enum", .arr [
        .str "array",
        .str "boolean",
        .str "integer",
        .str "null",
        .str "number",
        .str "object",
        .str "string"])]),
    ("stringArray", .obj [
      ("items", .obj [("type", .str "string")]),
      ("minItems", .num (.int 1)),
      ("type", .str "array"),
      ("uniqueItems", .bool true)])]),
  ("dependencies", .obj [
    ("exclusiveMaximum", .arr [.str "maximum"]),
    ("exclusiveMinimum", .arr [.str "minimum"])]),
  ("description", .str "Core schema meta-schema"),
  ("id", .str "http://json-schema.org/draft-04/schema#"),
  ("properties", .obj [
    ("$schema", .obj [("format", .str "uri"), ("type", .str "string")]),
    ("additionalItems", .obj [
      ("anyOf", .arr [.obj [("type", .str "boolean")], .obj [("$ref", .str "#")]]),
      ("default", .obj [])]),
    ("additionalProperties", .obj [
      ("anyOf", .arr [.obj [("type", .str "boolean")], .obj [("$ref", .str "#")]]),
      ("default", .obj [])]),
    ("allOf", .obj [("$ref", .str "#/definitions/schemaArray")]),
    ("anyOf", .obj [("$ref", .str "#/definitions/schemaArray")]),
    ("default", .obj []),
    ("definitions", .obj [
      ("additionalProperties", .obj [("$ref", .str "#")]),
      ("default", .obj []),
      ("type", .str "object")]),
    ("dependencies", .obj [
      ("additionalProperties", .obj [
        ("anyOf", .arr [
          .obj [("$ref", .str "#")],
          .obj [("$ref", .str "#/definitions/stringArray")]])]),
      ("type", .str "object")]),
    ("description", .obj [("type", .str "string")]),
    ("enum", .obj [("type", .str "array")]),
    ("exclusiveMaximum", .obj [("default", .bool false), ("type", .str "boolean")]),
    ("exclusiveMinimum", .obj [("default", .bool false), ("type", .str "boolean")]),
    ("format", .obj [("type", .str "string")]),
    ("id", .obj [("format", .str "uri"), ("type", .str "string")]),
    ("items", .obj [
      ("anyOf", .arr [
        .obj [("$ref", .str "#")],
        .obj [("$ref", .str "#/definitions/schemaArray")]]),
      ("default", .obj [])]),
    ("maxItems", .obj [("$ref", .str "#/definitions/positiveInteger")]),
    ("maxLength", .obj [("$ref", .str "#/definitions/positiveInteger")]),
    ("maxProperties", .obj [("$ref", .str "#/definitions/positiveInteger")]),
    ("maximum", .obj [("type", .str "number")]),
    ("minItems", .obj [("$ref", .str "#/definitions/positiveIntegerDefault0")]),
    ("minLength", .obj [("$ref", .str "#/definitions/positiveIntegerDefault0")]),
    ("minProperties", .obj [("$ref", .str "#/definitions/positiveIntegerDefault0")]),
    ("minimum", .obj [("type", .str "number")]),
    ("multipleOf", .obj [
      ("exclusiveMinimum", .bool true),
      ("minimum", .num (.int 0)),
      ("type", .str "number")]),
    ("not", .obj [("$ref", .str "#")]),
    ("oneOf", .obj [("$ref", .str "#/definitions/schemaArray")]),
    ("pattern", .obj [("format", .str "regex"), ("type", .str "string")]),
    ("patternProperties", .obj [
      ("additionalProperties", .obj [("$ref", .str "#")]),
      ("default", .obj []),
      ("type", .str "object")]),
    ("properties", .obj [
      ("additionalProperties", .obj [("$ref", .str "#")]),
      ("default", .obj []),
      ("type", .str "object")]),
    ("required", .obj [("$ref", .str "#/definitions/stringArray")]),
    ("title", .obj [("type", .str "string")]),
    ("type", .obj [
      ("anyOf", .arr [
        .obj [("$ref", .str "#/definitions/simpleTypes")],
        .obj [
          ("items", .obj [("$ref", .str "#/definitions/simpleTypes")]),
          ("minItems", .num (.int 1)),
          ("type", .str "array"),
          ("uniqueItems", .bool true)]])]),
    ("uniqueItems", .obj [("default", .bool false), ("type", .str "boolean")])]),
  ("type", .str "object")]

end DocCheck.Schema.Meta

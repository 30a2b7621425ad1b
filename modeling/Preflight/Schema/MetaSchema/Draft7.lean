import Preflight.Json.Value

/-!
# The meta-schema of Draft 7
-/

namespace Preflight.Schema.MetaSchema.Draft7

open Json

def root : Value :=
  .object [
    ("$schema", .string "http://json-schema.org/draft-07/schema#"),
    ("$id", .string "http://json-schema.org/draft-07/schema#"),
    ("title", .string "Core schema meta-schema"),
    ("definitions", .object [
        ("schemaArray", .object [
            ("type", .string "array"),
            ("minItems", .int 1),
            ("items", .object [("$ref", .string "#")])]),
        ("nonNegativeInteger", .object [("type", .string "integer"), ("minimum", .int 0)]),
        ("nonNegativeIntegerDefault0", .object [
            ("allOf", .array [
                .object [("$ref", .string "#/definitions/nonNegativeInteger")],
                .object [("default", .int 0)]])]),
        ("simpleTypes", .object [
            ("enum", .array [
                .string "array",
                .string "boolean",
                .string "integer",
                .string "null",
                .string "number",
                .string "object",
                .string "string"])]),
        ("stringArray", .object [
            ("type", .string "array"),
            ("items", .object [("type", .string "string")]),
            ("uniqueItems", .bool true),
            ("default", .array [])])]),
    ("type", .array [.string "object", .string "boolean"]),
    ("properties", .object [
        ("$id", .object [("type", .string "string"), ("format", .string "uri-reference")]),
        ("$schema", .object [("type", .string "string"), ("format", .string "uri")]),
        ("$ref", .object [("type", .string "string"), ("format", .string "uri-reference")]),
        ("$comment", .object [("type", .string "string")]),
        ("title", .object [("type", .string "string")]),
        ("description", .object [("type", .string "string")]),
        ("default", .bool true),
        ("readOnly", .object [("type", .string "boolean"), ("default", .bool false)]),
        ("examples", .object [("type", .string "array"), ("items", .bool true)]),
        ("multipleOf", .object [("type", .string "number"), ("exclusiveMinimum", .int 0)]),
        ("maximum", .object [("type", .string "number")]),
        ("exclusiveMaximum", .object [("type", .string "number")]),
        ("minimum", .object [("type", .string "number")]),
        ("exclusiveMinimum", .object [("type", .string "number")]),
        ("maxLength", .object [("$ref", .string "#/definitions/nonNegativeInteger")]),
        ("minLength", .object [("$ref", .string "#/definitions/nonNegativeIntegerDefault0")]),
        ("pattern", .object [("type", .string "string"), ("format", .string "regex")]),
        ("additionalItems", .object [("$ref", .string "#")]),
        ("items", .object [
            ("anyOf", .array [
                .object [("$ref", .string "#")],
                .object [("$ref", .string "#/definitions/schemaArray")]]),
            ("default", .bool true)]),
        ("maxItems", .object [("$ref", .string "#/definitions/nonNegativeInteger")]),
        ("minItems", .object [("$ref", .string "#/definitions/nonNegativeIntegerDefault0")]),
        ("uniqueItems", .object [("type", .string "boolean"), ("default", .bool false)]),
        ("contains", .object [("$ref", .string "#")]),
        ("maxProperties", .object [("$ref", .string "#/definitions/nonNegativeInteger")]),
        ("minProperties", .object [("$ref", .string "#/definitions/nonNegativeIntegerDefault0")]),
        ("required", .object [("$ref", .string "#/definitions/stringArray")]),
        ("additionalProperties", .object [("$ref", .string "#")]),
        ("definitions", .object [
            ("type", .string "object"),
            ("additionalProperties", .object [("$ref", .string "#")]),
            ("default", .object [])]),
        ("properties", .object [
            ("type", .string "object"),
            ("additionalProperties", .object [("$ref", .string "#")]),
            ("default", .object [])]),
        ("patternProperties", .object [
            ("type", .string "object"),
            ("additionalProperties", .object [("$ref", .string "#")]),
            ("propertyNames", .object [("format", .string "regex")]),
            ("default", .object [])]),
        ("dependencies", .object [
            ("type", .string "object"),
            ("additionalProperties", .object [
                ("anyOf", .array [
                    .object [("$ref", .string "#")],
                    .object [("$ref", .string "#/definitions/stringArray")]])])]),
        ("propertyNames", .object [("$ref", .string "#")]),
        ("const", .bool true),
        ("enum", .object [("type", .string "array"), ("items", .bool true)]),
        ("type", .object [
            ("anyOf", .array [
                .object [("$ref", .string "#/definitions/simpleTypes")],
                .object [
                  ("type", .string "array"),
                  ("items", .object [("$ref", .string "#/definitions/simpleTypes")]),
                  ("minItems", .int 1),
                  ("uniqueItems", .bool true)]])]),
        ("format", .object [("type", .string "string")]),
        ("contentMediaType", .object [("type", .string "string")]),
        ("contentEncoding", .object [("type", .string "string")]),
        ("if", .object [("$ref", .string "#")]),
        ("then", .object [("$ref", .string "#")]),
        ("else", .object [("$ref", .string "#")]),
        ("allOf", .object [("$ref", .string "#/definitions/schemaArray")]),
        ("anyOf", .object [("$ref", .string "#/definitions/schemaArray")]),
        ("oneOf", .object [("$ref", .string "#/definitions/schemaArray")]),
        ("not", .object [("$ref", .string "#")])]),
    ("default", .bool true)]

def documents : List Value := [root]

end Preflight.Schema.MetaSchema.Draft7

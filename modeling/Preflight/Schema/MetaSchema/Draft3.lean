import Preflight.Json.Value

/-!
# The meta-schema of Draft 3
-/

namespace Preflight.Schema.MetaSchema.Draft3

open Json

def root : Value :=
  .object [
    ("$schema", .string "http://json-schema.org/draft-03/schema#"),
    ("id", .string "http://json-schema.org/draft-03/schema#"),
    ("type", .string "object"),
    ("properties", .object [
        ("type", .object [
            ("type", .array [.string "string", .string "array"]),
            ("items", .object [("type", .array [.string "string", .object [("$ref", .string "#")]])]),
            ("uniqueItems", .bool true),
            ("default", .string "any")]),
        ("properties", .object [
            ("type", .string "object"),
            ("additionalProperties", .object [("$ref", .string "#"), ("type", .string "object")]),
            ("default", .object [])]),
        ("patternProperties", .object [
            ("type", .string "object"),
            ("additionalProperties", .object [("$ref", .string "#")]),
            ("default", .object [])]),
        ("additionalProperties", .object [
            ("type", .array [.object [("$ref", .string "#")], .string "boolean"]),
            ("default", .object [])]),
        ("items", .object [
            ("type", .array [.object [("$ref", .string "#")], .string "array"]),
            ("items", .object [("$ref", .string "#")]),
            ("default", .object [])]),
        ("additionalItems", .object [
            ("type", .array [.object [("$ref", .string "#")], .string "boolean"]),
            ("default", .object [])]),
        ("required", .object [("type", .string "boolean"), ("default", .bool false)]),
        ("dependencies", .object [
            ("type", .string "object"),
            ("additionalProperties", .object [
                ("type", .array [.string "string", .string "array", .object [("$ref", .string "#")]]),
                ("items", .object [("type", .string "string")])]),
            ("default", .object [])]),
        ("minimum", .object [("type", .string "number")]),
        ("maximum", .object [("type", .string "number")]),
        ("exclusiveMinimum", .object [("type", .string "boolean"), ("default", .bool false)]),
        ("exclusiveMaximum", .object [("type", .string "boolean"), ("default", .bool false)]),
        ("minItems", .object [("type", .string "integer"), ("minimum", .int 0), ("default", .int 0)]),
        ("maxItems", .object [("type", .string "integer"), ("minimum", .int 0)]),
        ("uniqueItems", .object [("type", .string "boolean"), ("default", .bool false)]),
        ("pattern", .object [("type", .string "string"), ("format", .string "regex")]),
        ("minLength", .object [("type", .string "integer"), ("minimum", .int 0), ("default", .int 0)]),
        ("maxLength", .object [("type", .string "integer")]),
        ("enum", .object [("type", .string "array"), ("minItems", .int 1), ("uniqueItems", .bool true)]),
        ("default", .object [("type", .string "any")]),
        ("title", .object [("type", .string "string")]),
        ("description", .object [("type", .string "string")]),
        ("format", .object [("type", .string "string")]),
        ("divisibleBy", .object [
            ("type", .string "number"),
            ("minimum", .int 0),
            ("exclusiveMinimum", .bool true),
            ("default", .int 1)]),
        ("disallow", .object [
            ("type", .array [.string "string", .string "array"]),
            ("items", .object [("type", .array [.string "string", .object [("$ref", .string "#")]])]),
            ("uniqueItems", .bool true)]),
        ("extends", .object [
            ("type", .array [.object [("$ref", .string "#")], .string "array"]),
            ("items", .object [("$ref", .string "#")]),
            ("default", .object [])]),
        ("id", .object [("type", .string "string")]),
        ("$ref", .object [("type", .string "string")]),
        ("$schema", .object [("type", .string "string"), ("format", .string "uri")])]),
    ("dependencies", .object [("exclusiveMinimum", .string "minimum"), ("exclusiveMaximum", .string "maximum")]),
    ("default", .object [])]

def documents : List Value := [root]

end Preflight.Schema.MetaSchema.Draft3

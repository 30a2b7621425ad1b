import Preflight.Json.Written

/-!
# The schema of gateway configurations

The schema that configurations are checked against unless another one is asked for.
-/

namespace Preflight.Gateway

open Json

def bundledSchema : Value :=
  .object [
    ("$schema", .string "https://json-schema.org/draft/2020-12/schema"),
    ("title", .string "Gateway configuration"),
    ("type", .string "object"),
    ("required", .array [.string "version"]),
    ("properties", .object [
        ("$schema", .object [("type", .string "string")]),
        ("version", .object [("const", .int 3)]),
        ("name", .object [("type", .string "string")]),
        ("port", .object [("type", .string "integer"), ("minimum", .int 0), ("maximum", .int 65535)]),
        ("host", .object [("$ref", .string "#/$defs/hosts")]),
        ("timeout", .object [("$ref", .string "#/$defs/duration")]),
        ("cache_ttl", .object [("$ref", .string "#/$defs/duration")]),
        ("debug_endpoint", .object [("type", .string "boolean")]),
        ("echo_endpoint", .object [("type", .string "boolean")]),
        ("output_encoding", .object [("$ref", .string "#/$defs/encoding")]),
        ("extra_config", .object [("type", .string "object")]),
        ("endpoints", .object [
            ("type", .string "array"),
            ("items", .object [("$ref", .string "#/$defs/endpoint")])])]),
    ("$defs", .object [
        ("duration", .object [
            ("type", .string "string"),
            ("pattern", .string "^[0-9]+(ns|us|µs|ms|s|m|h)$")]),
        ("hosts", .object [("type", .string "array"), ("items", .object [("type", .string "string")])]),
        ("encoding", .object [
            ("enum", .array [
                .string "json",
                .string "json-collection",
                .string "safejson",
                .string "xml",
                .string "yaml",
                .string "string",
                .string "negotiate",
                .string "no-op"])]),
        ("endpoint", .object [
            ("type", .string "object"),
            ("required", .array [.string "endpoint", .string "backend"]),
            ("properties", .object [
                ("endpoint", .object [("type", .string "string"), ("pattern", .string "^/")]),
                ("method", .object [
                    ("enum", .array [
                        .string "GET",
                        .string "POST",
                        .string "PUT",
                        .string "PATCH",
                        .string "DELETE",
                        .string "HEAD",
                        .string "OPTIONS"])]),
                ("timeout", .object [("$ref", .string "#/$defs/duration")]),
                ("output_encoding", .object [("$ref", .string "#/$defs/encoding")]),
                ("input_headers", .object [
                    ("type", .string "array"),
                    ("items", .object [("type", .string "string")])]),
                ("input_query_strings", .object [
                    ("type", .string "array"),
                    ("items", .object [("type", .string "string")])]),
                ("extra_config", .object [("type", .string "object")]),
                ("backend", .object [
                    ("type", .string "array"),
                    ("minItems", .int 1),
                    ("items", .object [("$ref", .string "#/$defs/backend")])])])]),
        ("backend", .object [
            ("type", .string "object"),
            ("required", .array [.string "url_pattern"]),
            ("properties", .object [
                ("url_pattern", .object [("type", .string "string")]),
                ("host", .object [("$ref", .string "#/$defs/hosts")]),
                ("method", .object [
                    ("enum", .array [
                        .string "GET",
                        .string "POST",
                        .string "PUT",
                        .string "PATCH",
                        .string "DELETE",
                        .string "HEAD",
                        .string "OPTIONS"])]),
                ("encoding", .object [("$ref", .string "#/$defs/encoding")]),
                ("extra_config", .object [("type", .string "object")])])])])]

def bundledText : String := bundledSchema.written

end Preflight.Gateway

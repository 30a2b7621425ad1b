import Preflight.Schema.Dialect

/-!
# Rules

What keywords mean. Each dialect gives rules to its keywords; a keyword without a rule is not
looked at.
-/

namespace Preflight.Schema

/-- What a keyword asks for. Some keywords have changed their meaning: a rule ending in a draft is
the meaning up to that draft. -/
inductive Rule
  | reference
  | dynamicReference
  | recursiveReference
  | typeIn
  | typeInDraft3
  | oneOfValues
  | constant
  | minimum
  | maximum
  | minimumDraft4
  | maximumDraft4
  | exclusiveMinimum
  | exclusiveMaximum
  | multipleOf
  | minLength
  | maxLength
  | pattern
  | format
  | minItems
  | maxItems
  | uniqueItems
  | items
  | itemsDraft4
  | itemsDraft2019
  | prefixItems
  | additionalItems
  | contains
  | containsDraft7
  | minProperties
  | maxProperties
  | required
  | properties
  | propertiesDraft3
  | patternProperties
  | additionalProperties
  | propertyNames
  | dependentRequired
  | dependentSchemas
  | dependenciesDraft3
  | dependenciesDraft7
  | allOf
  | anyOf
  | oneOf
  | not
  | ifThenElse
  | extends
  | disallow
  | unevaluatedItems
  | unevaluatedProperties
  deriving DecidableEq, Repr

namespace Rule

def shared : List (String × Rule) := [
  ("$ref", .reference),
  ("additionalProperties", .additionalProperties),
  ("enum", .oneOfValues),
  ("format", .format),
  ("maxItems", .maxItems),
  ("maxLength", .maxLength),
  ("minItems", .minItems),
  ("minLength", .minLength),
  ("pattern", .pattern),
  ("patternProperties", .patternProperties),
  ("uniqueItems", .uniqueItems)]

def sinceDraft4 : List (String × Rule) := [
  ("allOf", .allOf),
  ("anyOf", .anyOf),
  ("maxProperties", .maxProperties),
  ("minProperties", .minProperties),
  ("multipleOf", .multipleOf),
  ("not", .not),
  ("oneOf", .oneOf),
  ("properties", .properties),
  ("required", .required),
  ("type", .typeIn)]

def sinceDraft6 : List (String × Rule) := [
  ("const", .constant),
  ("exclusiveMaximum", .exclusiveMaximum),
  ("exclusiveMinimum", .exclusiveMinimum),
  ("maximum", .maximum),
  ("minimum", .minimum),
  ("propertyNames", .propertyNames)]

def sinceDraft2019 : List (String × Rule) := [
  ("contains", .contains),
  ("dependentRequired", .dependentRequired),
  ("dependentSchemas", .dependentSchemas),
  ("unevaluatedItems", .unevaluatedItems),
  ("unevaluatedProperties", .unevaluatedProperties)]

/-- Numeric bounds that a flag beside them makes exclusive. -/
def flaggedBounds : List (String × Rule) := [
  ("maximum", .maximumDraft4),
  ("minimum", .minimumDraft4)]

def table : Dialect → List (String × Rule)
  | .draft3 => shared ++ flaggedBounds ++ [
      ("additionalItems", .additionalItems),
      ("dependencies", .dependenciesDraft3),
      ("disallow", .disallow),
      ("divisibleBy", .multipleOf),
      ("extends", .extends),
      ("items", .itemsDraft4),
      ("properties", .propertiesDraft3),
      ("type", .typeInDraft3)]
  | .draft4 => shared ++ flaggedBounds ++ sinceDraft4 ++ [
      ("additionalItems", .additionalItems),
      ("dependencies", .dependenciesDraft7),
      ("items", .itemsDraft4)]
  | .draft6 => shared ++ sinceDraft4 ++ sinceDraft6 ++ [
      ("additionalItems", .additionalItems),
      ("contains", .containsDraft7),
      ("dependencies", .dependenciesDraft7),
      ("items", .itemsDraft2019)]
  | .draft7 => shared ++ sinceDraft4 ++ sinceDraft6 ++ [
      ("additionalItems", .additionalItems),
      ("contains", .containsDraft7),
      ("dependencies", .dependenciesDraft7),
      ("if", .ifThenElse),
      ("items", .itemsDraft2019)]
  | .draft2019 => shared ++ sinceDraft4 ++ sinceDraft6 ++ sinceDraft2019 ++ [
      ("$recursiveRef", .recursiveReference),
      ("additionalItems", .additionalItems),
      ("if", .ifThenElse),
      ("items", .itemsDraft2019)]
  | .draft2020 => shared ++ sinceDraft4 ++ sinceDraft6 ++ sinceDraft2019 ++ [
      ("$dynamicRef", .dynamicReference),
      ("if", .ifThenElse),
      ("items", .items),
      ("prefixItems", .prefixItems)]

def ofKeyword? (d : Dialect) (keyword : String) : Option Rule := (table d).lookup keyword

end Rule

end Preflight.Schema

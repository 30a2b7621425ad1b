import Preflight.Json.Value
import Preflight.Text.Split
import Preflight.Url.Basic

/-!
# Dialects of JSON Schema

The drafts that a schema can name, and where each of them keeps identifiers, anchors and subschemas.
A document is read in the dialect its `$schema` names and otherwise in that of its surroundings.
-/

namespace Preflight.Schema

open Json Text

inductive Dialect
  | draft3
  | draft4
  | draft6
  | draft7
  | draft2019
  | draft2020
  deriving DecidableEq, Repr

namespace Dialect

def all : List Dialect := [.draft3, .draft4, .draft6, .draft7, .draft2019, .draft2020]

/-- The name of the draft in `$schema`. -/
def uri : Dialect → String
  | .draft3 => "http://json-schema.org/draft-03/schema"
  | .draft4 => "http://json-schema.org/draft-04/schema"
  | .draft6 => "http://json-schema.org/draft-06/schema"
  | .draft7 => "http://json-schema.org/draft-07/schema"
  | .draft2019 => "https://json-schema.org/draft/2019-09/schema"
  | .draft2020 => "https://json-schema.org/draft/2020-12/schema"

def label : Dialect → String
  | .draft3 => "Draft3Validator"
  | .draft4 => "Draft4Validator"
  | .draft6 => "Draft6Validator"
  | .draft7 => "Draft7Validator"
  | .draft2019 => "Draft201909Validator"
  | .draft2020 => "Draft202012Validator"

def usual : Dialect := .draft2020

def withoutHash (uri : String) : String := String.ofList (dropTrailing '#' uri.toList)

/-- The dialect whose keywords a schema is evaluated with: the one it names, in any spelling of the
URI, else that of its surroundings. -/
def evaluating (surroundings : Dialect) (schema : Value) : Except UrlFault Dialect :=
  match schema.get? "$schema" with
  | some (.string name) => do
    let name ← Url.normalize name
    pure ((all.find? (·.uri == name)).getD surroundings)
  | _ => .ok surroundings

/-- The dialect whose identifiers a document uses: the one it names letter by letter, else that of
its surroundings. -/
def identifying (surroundings : Dialect) (document : Value) : Dialect :=
  match document.get? "$schema" with
  | some (.string name) => (all.find? (·.uri == withoutHash name)).getD surroundings
  | _ => surroundings

/-- Whether the neighbours of a `$ref` count for nothing. -/
def refHidesSiblings : Dialect → Bool
  | .draft2019 | .draft2020 => false
  | _ => true

def idKeyword : Dialect → String
  | .draft3 | .draft4 => "id"
  | _ => "$id"

def text? (schema : Value) (keyword : String) : Option String :=
  match schema.get? keyword with
  | some (.string s) => some s
  | _ => none

/-- The identifier of a schema. Up to draft 7 one that starts with a hash sign is an anchor, and a
`$ref` hides it. -/
def identifier? (d : Dialect) (schema : Value) : Option String :=
  match text? schema d.idKeyword with
  | some id =>
    if d.refHidesSiblings && ((schema.get? "$ref").isSome || id.toList.head? == some '#') then none
    else some (withoutHash id)
  | none => none

/-- The anchors of a schema, with whether each is dynamic. -/
def anchors (d : Dialect) (schema : Value) : List (String × Bool) :=
  let named (keyword : String) (dynamic : Bool) :=
    (text? schema keyword).toList.map fun name => (name, dynamic)
  match d with
  | .draft2020 => named "$anchor" false ++ named "$dynamicAnchor" true
  | .draft2019 => named "$anchor" false
  | _ =>
    match (text? schema d.idKeyword).map String.toList with
    | some ('#' :: name) => [(String.ofList name, false)]
    | _ => []

def schemaKeywords : Dialect → List String
  | .draft3 => []
  | .draft4 => ["not"]
  | .draft6 => ["additionalItems", "additionalProperties", "contains", "not", "propertyNames"]
  | .draft7 => ["additionalItems", "additionalProperties", "contains", "else", "if", "not",
      "propertyNames", "then"]
  | .draft2019 => ["additionalItems", "additionalProperties", "contains", "contentSchema", "else",
      "if", "not", "propertyNames", "then", "unevaluatedItems", "unevaluatedProperties"]
  | .draft2020 => ["additionalProperties", "contains", "contentSchema", "else", "if", "items", "not",
      "propertyNames", "then", "unevaluatedItems", "unevaluatedProperties"]

def listKeywords : Dialect → List String
  | .draft3 => ["extends"]
  | .draft2020 => ["allOf", "anyOf", "oneOf", "prefixItems"]
  | _ => ["allOf", "anyOf", "oneOf"]

def tableKeywords : Dialect → List String
  | .draft2019 | .draft2020 =>
    ["$defs", "definitions", "dependentSchemas", "patternProperties", "properties"]
  | _ => ["definitions", "patternProperties", "properties"]

/-- Keywords whose value is a schema in some of its forms. -/
def looseKeywords : Dialect → List String
  | .draft3 | .draft4 => ["additionalItems", "additionalProperties"]
  | _ => []

/-- Whether `items` is a schema or a list of schemas. -/
def itemsMayBeList (d : Dialect) : Bool := d != .draft2020

/-- Whether `dependencies` gives schemas, or lists of names, to names. -/
def hasDependencies : Dialect → Bool
  | .draft2019 | .draft2020 => false
  | _ => true

def isSchema : Value → Bool
  | .object _ | .bool _ => true
  | _ => false

def subschemas (d : Dialect) (schema : Value) : List Value :=
  let direct := d.schemaKeywords.filterMap schema.get?
  let listed := d.listKeywords.flatMap fun k =>
    match schema.get? k with
    | some (.array items) => items
    | _ => []
  let tabled := d.tableKeywords.flatMap fun k =>
    match schema.get? k with
    | some (.object members) => members.map (·.2)
    | _ => []
  let items := match d.itemsMayBeList, schema.get? "items" with
    | true, some (.array items) => items
    | true, some item => [item]
    | _, _ => []
  let dependencies := match d.hasDependencies, schema.get? "dependencies" with
    | true, some (.object ((_, .object first) :: rest)) => .object first :: rest.map (·.2)
    | _, _ => []
  let loose := (d.looseKeywords.filterMap schema.get?).filter fun
    | .object _ => true
    | _ => false
  (direct ++ listed ++ tabled ++ items ++ dependencies ++ loose).filter isSchema

/-- Whether a step of a pointer leads from a schema to an object that is itself a schema under a
keyword that may also hold a list. -/
def entersAtOnce (d : Dialect) (keyword : String) (target : Value) : Bool :=
  match target with
  | .object _ =>
    (d.itemsMayBeList && keyword == "items") || (d.hasDependencies && keyword == "dependencies")
  | _ => false

/-- Whether the steps of a pointer from one schema lead to another schema, so that the identifier
found there counts. -/
def leadsToSchema (d : Dialect) (target : Value) : List String → Bool
  | [] => true
  | step :: steps =>
    if d.entersAtOnce step target then true
    else if (d.schemaKeywords ++ d.looseKeywords).contains step then leadsToSchema d target steps
    else if (d.listKeywords ++ d.tableKeywords).contains step then
      match steps with
      | [] => false
      | _ :: steps => leadsToSchema d target steps
    else false

end Dialect

end Preflight.Schema

import Preflight.Schema.Applicator

/-!
# Evaluating a schema

The walk through the keywords of a schema, in the order of the document. Schemas may refer to each
other in a circle, so the depth of the walk is bounded.
-/

namespace Preflight.Schema

open Json

def maxDepth : Nat := 400

def countingKeywords (d : Dialect) (schema : Members) : Members :=
  match d.refHidesSiblings, Members.get? schema "$ref" with
  | true, some ref => [("$ref", ref)]
  | _, _ => schema

/-- Keywords that are no step of the way through a schema. -/
def transparent : List String := ["if", "$ref"]

def Finding.under (keyword : String) (x : Finding) : Finding :=
  { x with
    keyword := some (x.keyword.getD keyword)
    schemaPath := if transparent.contains keyword then x.schemaPath
      else .name keyword :: x.schemaPath }

/-- Evaluates a schema on a value, `d` saying which of its keywords count. -/
def walk (fetch : Fetch) (formats : Bool) : Nat → Dialect → Frame → Value → Value → Trace
  | 0, _, _, _, _ => .stop (.mishap .endless)
  | fuel + 1, d, frame, schema, target =>
    match schema with
    | .bool true => .done
    | .bool false => .report (.ofFalse target)
    | .object members =>
      let e : Evaluator := ⟨fetch, formats, walk fetch formats fuel⟩
      .each (fun (keyword, v) =>
        match Rule.ofKeyword? frame.dialect keyword with
        | some rule => (e.apply fuel ⟨frame, members, target⟩ v rule).map (.under keyword)
        | none => .done) (countingKeywords d members)
    | v => .stop (.mishap (.wrongType s!"'{v.typeName}' object is no schema"))

def evaluate (fetch : Fetch) (formats : Bool) (registry : Registry) (d : Dialect)
    (document target : Value) : Trace :=
  walk fetch formats maxDepth d ⟨d, .ofRoot registry ⟨d, document⟩⟩ document target

end Preflight.Schema

import Preflight.Schema.Applicator.Basic

/-!
# Subschemas for arrays

The keywords about the items of an array: those at their own places, those behind them, and how many
items have to be valid under a schema.
-/

namespace Preflight.Schema

open Json

namespace Evaluator

variable (e : Evaluator)

def applyFrom (site : Site) (schema : Value) (start : Nat) (items : List Value) : Trace :=
  .each (fun (item, index) => e.descend site.frame schema item (some (.index index)) none)
    ((items.drop start).zipIdx start)

/-- Evaluates each of a list of schemas on the item at its place. -/
def applyPairwise (site : Site) (schemas items : List Value) : Trace :=
  .each (fun ((item, schema), index) =>
    e.descend site.frame schema item (some (.index index)) (some (.index index)))
    (items.zip schemas).zipIdx

def applyPrefixItems (site : Site) (v : Value) : Trace :=
  match site.target with
  | .array items => e.applyPairwise site (schemasListed v) items
  | _ => .done

def applyItems (site : Site) (v : Value) : Trace :=
  match site.target with
  | .array items =>
    let count := (schemasListed ((Members.get? site.schema "prefixItems").getD .null)).length
    match items.drop count, v with
    | [], _ => .done
    | rest, .bool false =>
      let shown := match rest with
        | [item] => item
        | rest => .array rest
      let noun := if count = 1 then "item" else "items"
      .say s!"Expected at most {count} {noun} but found {rest.length} extra: {shown.show}"
    | _, _ => e.applyFrom site v count items
  | _ => .done

def applyItemsDraft4 (site : Site) (v : Value) : Trace :=
  match site.target with
  | .array items =>
    match v with
    | .object _ => e.applyFrom site v 0 items
    | _ => e.applyPairwise site (schemasListed v) items
  | _ => .done

def applyItemsDraft2019 (site : Site) (v : Value) : Trace :=
  match site.target with
  | .array items =>
    match v with
    | .array schemas => e.applyPairwise site schemas items
    | _ => e.applyFrom site v 0 items
  | _ => .done

def applyAdditionalItems (site : Site) (v : Value) : Trace :=
  match site.target, Members.get? site.schema "items" with
  | .array _, none | .array _, some (.object _) => .done
  | .array items, some (.array schemas) =>
    match v with
    | .object _ => e.applyFrom site v schemas.length items
    | _ =>
      let rest := items.drop schemas.length
      .sayIf (!v.isTruthy && !rest.isEmpty)
        s!"Additional items are not allowed ({extrasPhrase rest} unexpected)"
  | .array _, some v => .stop (.mishap (.wrongType s!"object of type '{v.typeName}' has no len()"))
  | _, _ => .done

/-- Counts the items that are valid under a schema, up to one more than a limit. -/
def countValid (frame : Frame) (schema : Value) (limit : Number) : Nat → List Value → Search Nat
  | count, [] => pure count
  | count, item :: items => do
    if ← e.probe frame schema item then
      if limit.less (.int ((count : Int) + 1)) then pure (count + 1)
      else countValid frame schema limit (count + 1) items
    else countValid frame schema limit count items

/-- `contains`, with the bounds beside it. -/
def applyContains (site : Site) (v : Value) : Trace :=
  match site.target with
  | .array items =>
    let least := (Members.get? site.schema "minContains").getD (.int 1)
    let most := (Members.get? site.schema "maxContains").getD (.int items.length)
    match asNumber least, asNumber most with
    | .ok low, .ok high => .after (e.countValid site.frame v high 0 items) fun count =>
        if high.less (.int count) then
          .report { Finding.ofMessage
            s!"Too many items match the given schema (expected at most {most.show})" with
            keyword := some "maxContains" }
        else if (Number.int count).less low then
          if count = 0 then
            .say s!"{site.target.show} does not contain items matching the given schema"
          else
            .report { Finding.ofMessage (s!"Too few items match the given schema (expected at least " ++
              s!"{least.show} but only {count} matched)") with keyword := some "minContains" }
        else .done
    | .error mishap, _ | _, .error mishap => .stop (.mishap mishap)
  | _ => .done

def probeAny (frame : Frame) (schema : Value) : List Value → Search Bool
  | [] => pure false
  | v :: vs => do if ← e.probe frame schema v then pure true else probeAny frame schema vs

def applyContainsDraft7 (site : Site) (v : Value) : Trace :=
  match site.target with
  | .array items => .after (e.probeAny site.frame v items) fun found =>
      .sayIf (!found) s!"None of {site.target.show} are valid under the given schema"
  | _ => .done

end Evaluator

end Preflight.Schema

import Preflight.Schema.Applicator.Basic
import Preflight.Schema.Unevaluated

/-!
# Combining subschemas

The keywords that apply subschemas to the value itself: all of them, one of them, none, or one that
depends on another. Only `allOf`, `extends` and the branches of a condition let the findings of a
subschema through.
-/

namespace Preflight.Schema

open Json

namespace Evaluator

variable (e : Evaluator)

def applyAllOf (site : Site) (v : Value) : Trace :=
  .each (fun (schema, index) => e.descend site.frame schema site.target none (some (.index index)))
    (schemasListed v).zipIdx

/-- The first of some schemas that a value is valid under, with the ones behind it. -/
def firstValid (site : Site) : List Value → Search (Option (Value × List Value))
  | [] => pure none
  | schema :: schemas => do
    let findings ← (e.descendHere site.frame schema site.target).findings
    if findings.isEmpty then pure (some (schema, schemas)) else firstValid site schemas

def noAlternative (target : Value) : String :=
  s!"{target.show} is not valid under any of the given schemas"

def applyAnyOf (site : Site) (v : Value) : Trace :=
  .after (e.firstValid site (schemasListed v)) fun found =>
    .sayIf found.isNone (noAlternative site.target)

def applyOneOf (site : Site) (v : Value) : Trace :=
  .after (e.firstValid site (schemasListed v)) fun
    | none => .say (noAlternative site.target)
    | some (first, others) =>
      .after (filterSearch (fun schema => e.probe site.frame schema site.target) others) fun more =>
        .sayIf (!more.isEmpty) (s!"{site.target.show} is valid under each of " ++
          ", ".intercalate ((more ++ [first]).map Value.show))

def applyNot (site : Site) (v : Value) : Trace :=
  .after (e.probe site.frame v site.target) fun valid =>
    .sayIf valid s!"{site.target.show} should not be valid under {v.show}"

/-- `if`, with `then` and `else` beside it. -/
def applyIf (site : Site) (v : Value) : Trace :=
  .after (e.probe site.frame v site.target) fun valid =>
    let branch := if valid then "then" else "else"
    match Members.get? site.schema branch with
    | some schema => e.descend site.frame schema site.target none (some (.name branch))
    | none => .done

def applyExtends (site : Site) (v : Value) : Trace :=
  match v with
  | .object _ => e.descendHere site.frame v site.target
  | _ => e.applyAllOf site v

/-- Whether a value is of one of some types of draft 3, which may be schemas. -/
def hasSomeTypeDraft3 (site : Site) : List Value → Search Bool
  | [] => pure false
  | .string "any" :: _ => pure true
  | .object schema :: types => do
    let findings ← (e.descendHere site.frame (.object schema) site.target).findings
    if findings.isEmpty then pure true else hasSomeTypeDraft3 site types
  | type :: types => do
    let holds ← Run.ofExcept ((hasType site.frame.dialect site.target type).mapError Stop.mishap)
    if holds then pure true else hasSomeTypeDraft3 site types

/-- A type of draft 3 as messages show it: a schema by its name if it has one. -/
def shownType (type : Value) : String := ((type.get? "name").getD type).show

def applyTypeDraft3 (site : Site) (v : Value) : Trace :=
  .after (e.hasSomeTypeDraft3 site (asList v)) fun holds =>
    let types := ", ".intercalate ((asList v).map shownType)
    .sayIf (!holds) s!"{site.target.show} is not of type {types}"

def applyDisallow (site : Site) (v : Value) : Trace :=
  .each (fun type =>
    .after (e.probe site.frame (.object [("type", .array [type])]) site.target) fun valid =>
      .sayIf valid s!"{type.show} is disallowed for {site.target.show}") (asList v)

end Evaluator

end Preflight.Schema

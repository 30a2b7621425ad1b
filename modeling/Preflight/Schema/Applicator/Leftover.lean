import Preflight.Schema.Applicator.Basic
import Preflight.Schema.Unevaluated

/-!
# What no keyword has looked at

The keywords about the members and items that no other keyword of the schema has evaluated.
-/

namespace Preflight.Schema

open Json

namespace Evaluator

variable (e : Evaluator)

/-- The names of an object that a schema does not allow, once for each finding. -/
def unallowedNames (site : Site) (schema : Value) (members : Members) : Search (List String) :=
  collect (fun (name, member) => do
    let findings ← (e.descendHere site.frame schema member).findings
    pure (findings.map fun _ => name)) members

def applyUnevaluatedProperties (fuel : Nat) (site : Site) (v : Value) : Trace :=
  match site.target with
  | .object members =>
    .after (e.evaluatedNames site.frame.dialect fuel site.frame (.object site.schema) members)
      fun evaluated =>
        let others := members.filter fun m => !evaluated.contains m.1
        .after (e.unallowedNames site v others) fun
          | [] => .done
          | names => match v with
            | .bool false => .say ("Unevaluated properties are not allowed (" ++
                s!"{extrasPhrase ((sortedNames names).map .string)} unexpected)")
            | _ => .say ("Unevaluated properties are not valid under the given schema (" ++
                s!"{extrasPhrase (names.map .string)} unevaluated and invalid)")
  | _ => .done

def applyUnevaluatedItems (fuel : Nat) (site : Site) (_ : Value) : Trace :=
  match site.target with
  | .array items =>
    .after (e.evaluatedItems site.frame.dialect fuel site.frame (.object site.schema) items)
      fun evaluated =>
        match (items.zipIdx.filter fun p => !evaluated.contains p.2).map (·.1) with
        | [] => .done
        | others => .say s!"Unevaluated items are not allowed ({extrasPhrase others} unexpected)"
  | _ => .done

end Evaluator

end Preflight.Schema

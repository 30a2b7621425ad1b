import Preflight.Schema.Assertion
import Preflight.Schema.Trace

/-!
# Descending into subschemas

How a keyword has a subschema evaluated. A descent moves the base of references into the subschema
and puts its own steps before those of the findings; a probe only asks whether a value is valid and
leaves the base where it is.
-/

namespace Preflight.Schema

open Json

/-- Where a schema is evaluated: its dialect and its references. -/
structure Frame where
  dialect : Dialect
  resolver : Resolver

/-- What the rules need of an evaluator: how documents are got, whether formats are looked at, and the
walk through a schema. The walk takes the dialect that says which keywords count, and the frame in
which they are evaluated. -/
structure Evaluator where
  fetch : Fetch
  formats : Bool
  walk : Dialect → Frame → Value → Value → Trace

/-- A schema being evaluated on a value. -/
structure Site where
  frame : Frame
  schema : Members
  target : Value

def Finding.ofFalse (target : Value) : Finding :=
  ⟨some "None", [], [], s!"False schema does not allow {target.show}", none⟩

/-- A finding seen from the value and the schema that a step leads away from. -/
def Finding.below (valueStep schemaStep : Option Step) (x : Finding) : Finding :=
  { x with
    valuePath := valueStep.toList ++ x.valuePath
    schemaPath := schemaStep.toList ++ x.schemaPath }

def Trace.ofVerdict : Verdict → Trace
  | .ok message => .ofMessage? message
  | .error mishap => .stop (.mishap mishap)

namespace Evaluator

variable (e : Evaluator)

def inside (frame : Frame) (resolver : Resolver) (schema : Value) : Search Frame := do
  let dialect ← Search.ofUrl (Dialect.evaluating frame.dialect schema)
  pure ⟨dialect, resolver⟩

/-- Evaluates a schema that a resolver was found for. A schema that allows nothing is a finding
here, without the steps to it. -/
def descendWith (frame : Frame) (resolver : Resolver) (schema target : Value)
    (valueStep schemaStep : Option Step) : Trace :=
  match schema with
  | .bool true => .done
  | .bool false => .report (.ofFalse target)
  | _ => .after (inside frame resolver schema) fun inner =>
      (e.walk frame.dialect inner schema target).map (.below valueStep schemaStep)

def descend (frame : Frame) (schema target : Value) (valueStep schemaStep : Option Step) : Trace :=
  match schema with
  | .bool _ => e.descendWith frame frame.resolver schema target valueStep schemaStep
  | _ => .after (frame.resolver.enter ⟨frame.dialect, schema⟩) fun resolver =>
      e.descendWith frame resolver schema target valueStep schemaStep

def descendHere (frame : Frame) (schema target : Value) : Trace :=
  e.descend frame schema target none none

def probe (frame : Frame) (schema target : Value) : Search Bool := do
  let inner ← inside frame frame.resolver schema
  (e.walk inner.dialect inner schema target).isClean

def refer (frame : Frame) (ref : Value) (target : Value) : Trace :=
  match ref with
  | .string ref => .after (frame.resolver.lookup e.fetch ref) fun found =>
      e.descendWith frame found.resolver found.contents target none none
  | v => .stop (.mishap (.wrongType s!"'{v.typeName}' object is no reference"))

end Evaluator

/-- A reference that leads nowhere, told without its kind. -/
def Stop.withoutKind : Stop → Stop
  | .unresolved _ fault => .unresolved false fault
  | stop => stop

end Preflight.Schema

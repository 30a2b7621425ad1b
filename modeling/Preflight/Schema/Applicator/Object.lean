import Preflight.Schema.Applicator.Basic

/-!
# Subschemas for objects

The keywords about the members of an object: what each member has to be, which members there must be,
and which ones follow from another.
-/

namespace Preflight.Schema

open Json

namespace Evaluator

variable (e : Evaluator)

def applyProperties (site : Site) (v : Value) : Trace :=
  match site.target with
  | .object members => .each (fun (name, schema) =>
      match Members.get? members name with
      | some member => e.descend site.frame schema member (some (.name name)) (some (.name name))
      | none => .done) (schemasByName v)
  | _ => .done

/-- `properties` of draft 3, whose members say themselves that they are required. -/
def applyPropertiesDraft3 (site : Site) (v : Value) : Trace :=
  match site.target with
  | .object members => .each (fun (name, schema) =>
      match Members.get? members name with
      | some member => e.descend site.frame schema member (some (.name name)) (some (.name name))
      | none =>
        if ((schema.get? "required").map Value.isTruthy).getD false then
          .report ⟨some "required", [.name name], [.name name, .name "required"],
            s!"{(Value.string name).show} is a required property", none⟩
        else .done) (schemasByName v)
  | _ => .done

def applyPatternProperties (site : Site) (v : Value) : Trace :=
  match site.target with
  | .object members => .each (fun (pattern, schema) => .each (fun (name, member) =>
      match patternFound pattern name with
      | .ok true => e.descend site.frame schema member (some (.name name)) (some (.name pattern))
      | .ok false => .done
      | .error mishap => .stop (.mishap mishap)) members) (schemasByName v)
  | _ => .done

/-- Names of an object that neither `properties` nor `patternProperties` of the schema is about. -/
def extraNames (schema members : Members) : Except Mishap (List String) :=
  let known := schemasByName ((Members.get? schema "properties").getD .null)
  let patterns := schemasByName ((Members.get? schema "patternProperties").getD .null)
  let pattern := "|".intercalate (Members.names patterns)
  (Members.names members).filterM fun name =>
    if Members.has known name then .ok false
    else if pattern == "" then .ok true
    else (patternFound pattern name).map (!·)

/-- What is said of names that are in an object for no reason. -/
def extraMessage (schema : Members) (extras : List String) : String :=
  let shown (names : List String) :=
    ", ".intercalate ((sortedNames names).map fun name => (Value.string name).show)
  match Members.get? schema "patternProperties" with
  | some patterns =>
    let verb := if extras.length = 1 then "does" else "do"
    s!"{shown extras} {verb} not match any of the regexes: " ++
      shown ((schemasByName patterns).map (·.1))
  | none =>
    s!"Additional properties are not allowed ({extrasPhrase ((sortedNames extras).map .string)} " ++
      "unexpected)"

def applyAdditionalProperties (site : Site) (v : Value) : Trace :=
  match site.target with
  | .object members =>
    match extraNames site.schema members with
    | .error mishap => .stop (.mishap mishap)
    | .ok extras =>
      match v with
      | .object _ => .each (fun name =>
          match Members.get? members name with
          | some member => e.descend site.frame v member (some (.name name)) none
          | none => .done) extras
      | _ => .sayIf (!v.isTruthy && !extras.isEmpty) (extraMessage site.schema extras)
  | _ => .done

def applyPropertyNames (site : Site) (v : Value) : Trace :=
  match site.target with
  | .object members =>
    .each (fun name => e.descendHere site.frame v (.string name)) (Members.names members)
  | _ => .done

/-- The property that a finding of `required` is about: the first name of the keyword's list that the
object lacks and that the message begins with. A null is no name. -/
def missingProperty : Value → Value → String → Option String
  | .object members, .array names, message =>
    match names.find? fun name =>
        lacks members name && name.show.toList.isPrefixOf message.toList with
    | none | some .null => none
    | some name => some name.plain
  | _, _, _ => none

def applyRequired (site : Site) (v : Value) : Trace :=
  match site.target with
  | .object members =>
    match askedNames v with
    | .error mishap => .stop (.mishap mishap)
    | .ok names => .each (fun name =>
        let message := s!"{name.show} is a required property"
        .report { Finding.ofMessage message with
          missing := missingProperty site.target v message }) (names.filter (lacks members))
  | _ => .done

def applyNames (members : Members) (property : String) (names : Value) : Trace :=
  match askedNames names with
  | .error mishap => .stop (.mishap mishap)
  | .ok names => .each Trace.say (missingDependencies members property names)

def eachDependency (site : Site) (v : Value) (f : Members → String → Value → Trace) : Trace :=
  match site.target with
  | .object members => .each (fun (property, dependency) =>
      if Members.has members property then f members property dependency else .done) (schemasByName v)
  | _ => .done

def applyDependentSchema (site : Site) (property : String) (schema : Value) : Trace :=
  e.descend site.frame schema site.target none (some (.name property))

def applyDependentRequired (site : Site) (v : Value) : Trace :=
  eachDependency site v applyNames

def applyDependentSchemas (site : Site) (v : Value) : Trace :=
  eachDependency site v fun _ property schema => e.applyDependentSchema site property schema

def applyDependenciesDraft7 (site : Site) (v : Value) : Trace :=
  eachDependency site v fun members property dependency =>
    match dependency with
    | .array _ => applyNames members property dependency
    | _ => e.applyDependentSchema site property dependency

def applyDependenciesDraft3 (site : Site) (v : Value) : Trace :=
  eachDependency site v fun members property dependency =>
    match dependency with
    | .object _ => e.applyDependentSchema site property dependency
    | .string _ => applyNames members property (.array [dependency])
    | _ => applyNames members property dependency

end Evaluator

end Preflight.Schema

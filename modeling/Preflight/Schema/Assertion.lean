import Preflight.Json.Equality
import Preflight.Json.Show
import Preflight.Pattern.Match
import Preflight.Pattern.Reader
import Preflight.Schema.Dialect
import Preflight.Schema.Distinct
import Preflight.Schema.Multiple

/-!
# Assertions

The keywords that look at one value only. Each function says what is wrong with a value under the
value of a keyword, or nothing. Numbers are asked of numbers only, lengths of texts only, and so
on: a value of another type is never at fault.
-/

namespace Preflight.Schema

open Json Pattern

abbrev Verdict := Except Mishap (Option String)

def objection (fails : Bool) (message : String) : Verdict := .ok (if fails then some message else none)

def number? : Value → Option Number
  | .bool _ => none
  | v => v.toNumber?

def asNumber (v : Value) : Except Mishap Number :=
  match v.toNumber? with
  | some n => .ok n
  | none => .error (.wrongType "a number is required")

/-- Whether a value is of a type; `none` for a type that the dialect does not know. Since draft 6
floating-point numbers without a fraction are integers. -/
def isOfType (d : Dialect) (type : String) (v : Value) : Option Bool :=
  match type, v with
  | "any", _ => if d = .draft3 then some true else none
  | "array", .array _ => some true
  | "boolean", .bool _ => some true
  | "integer", .int _ => some true
  | "integer", .float x => some (d != .draft3 && d != .draft4 && x.isIntegral)
  | "null", .null => some true
  | "number", .int _ | "number", .float _ => some true
  | "object", .object _ => some true
  | "string", .string _ => some true
  | type, _ =>
    if ["array", "boolean", "integer", "null", "number", "object", "string"].contains type then
      some false
    else none

/-- Whether a value is of a type; an unknown type is a mishap. -/
def hasType (d : Dialect) (v : Value) : Value → Except Mishap Bool
  | .string type =>
    match isOfType d type v with
    | some holds => .ok holds
    | none => .error (.unknownType type)
  | type => .error (.unknownType type.show)

def asList : Value → List Value
  | .array items => items
  | v => [v]

/-- Whether a value is of one of some types, tried in order. -/
def hasSomeType (d : Dialect) (v : Value) : List Value → Except Mishap Bool
  | [] => .ok false
  | type :: types => do if ← hasType d v type then pure true else hasSomeType d v types

def checkType (d : Dialect) (types v : Value) : Verdict := do
  let holds ← hasSomeType d v (asList types)
  let shown := ", ".intercalate ((asList types).map Value.show)
  objection (!holds) s!"{v.show} is not of type {shown}"

def checkEnum (choices v : Value) : Verdict :=
  objection (!(asList choices).any (·.schemaEq v)) s!"{v.show} is not one of {choices.show}"

def checkConst (expected v : Value) : Verdict :=
  objection (!v.schemaEq expected) s!"{expected.show} was expected"

/-- A bound on a number, the bound itself excluded or not. -/
def checkBound (fails : Number → Number → Bool) (relation : String) (bound v : Value) : Verdict :=
  match number? v with
  | none => .ok none
  | some n => do
    let b ← asNumber bound
    objection (fails n b) s!"{v.show} is {relation} of {bound.show}"

def checkMinimum : Value → Value → Verdict := checkBound Number.less "less than the minimum"

def checkMaximum : Value → Value → Verdict :=
  checkBound (fun n b => b.less n) "greater than the maximum"

def checkExclusiveMinimum : Value → Value → Verdict :=
  checkBound Number.atMost "less than or equal to the minimum"

def checkExclusiveMaximum : Value → Value → Verdict :=
  checkBound (fun n b => b.atMost n) "greater than or equal to the maximum"

def checkMultiple (divisor v : Value) : Verdict :=
  match number? v with
  | none => .ok none
  | some n => do
    let d ← asNumber divisor
    let holds ← isMultiple n d
    objection (!holds) s!"{v.show} is not a multiple of {divisor.show}"

/-- A lower bound on a size; a bound of one has a wording of its own. -/
def checkAtLeast (size : Nat) (wording : String) (bound v : Value) : Verdict := do
  let b ← asNumber bound
  let wording := if b.equals (.int 1) then "should be non-empty" else wording
  objection ((Number.int size).less b) s!"{v.show} {wording}"

/-- An upper bound on a size; a bound of zero has a wording of its own. -/
def checkAtMost (size : Nat) (wording : String) (bound v : Value) : Verdict := do
  let b ← asNumber bound
  let wording := if b.equals (.int 0) then "is expected to be empty" else wording
  objection (b.less (Number.int size)) s!"{v.show} {wording}"

def checkMinLength (bound : Value) : Value → Verdict
  | .string s => checkAtLeast s.length "is too short" bound (.string s)
  | _ => .ok none

def checkMaxLength (bound : Value) : Value → Verdict
  | .string s => checkAtMost s.length "is too long" bound (.string s)
  | _ => .ok none

def checkMinItems (bound : Value) : Value → Verdict
  | .array items => checkAtLeast items.length "is too short" bound (.array items)
  | _ => .ok none

def checkMaxItems (bound : Value) : Value → Verdict
  | .array items => checkAtMost items.length "is too long" bound (.array items)
  | _ => .ok none

def checkMinProperties (bound : Value) : Value → Verdict
  | .object members =>
    checkAtLeast members.length "does not have enough properties" bound (.object members)
  | _ => .ok none

def checkMaxProperties (bound : Value) : Value → Verdict
  | .object members => checkAtMost members.length "has too many properties" bound (.object members)
  | _ => .ok none

def checkUnique (wanted : Value) : Value → Verdict
  | .array items =>
    objection (wanted.isTruthy && !distinct items) s!"{(Value.array items).show} has non-unique elements"
  | _ => .ok none

def compilePattern (pattern : String) : Except Mishap Regex :=
  match compile pattern with
  | .ok regex => .ok regex
  | .error .tooManyRepeats => .error (.overflow "the repetition number is too large")
  | .error .malformed => .error (.badPattern s!"{pattern} is not a pattern")

def patternFound (pattern text : String) : Except Mishap Bool := do
  let regex ← compilePattern pattern
  pure (regex.search text)

def checkPattern (pattern : Value) : Value → Verdict
  | .string s =>
    match pattern with
    | .string p => do
      let found ← patternFound p s
      objection (!found) s!"{(Value.string s).show} does not match {pattern.show}"
    | _ => .error (.wrongType "first argument must be string or compiled pattern")
  | _ => .ok none

/-- `format`, of which patterns are the only one looked at. -/
def checkFormat (format : Value) : Value → Verdict
  | .string s =>
    match format with
    | .string "regex" =>
      match compilePattern s with
      | .error (.badPattern _) =>
        objection true s!"{(Value.string s).show} is not a {format.show}"
      | .error mishap => .error mishap
      | .ok _ => .ok none
    | _ => .ok none
  | _ => .ok none

def askedNames : Value → Except Mishap (List Value)
  | .array names => .ok names
  | .string s => .ok (s.toList.map fun c => .string (String.singleton c))
  | .object members => .ok (members.map fun m => .string m.1)
  | v => .error (.wrongType s!"'{v.typeName}' object is not iterable")

def lacks (members : Members) : Value → Bool
  | .string name => !Members.has members name
  | _ => true

/-- What is said of the names that a property depends on and an object lacks. -/
def missingDependencies (members : Members) (property : String) (names : List Value) : List String :=
  (names.filter (lacks members)).map fun name =>
    s!"{name.show} is a dependency of {(Value.string property).show}"

end Preflight.Schema

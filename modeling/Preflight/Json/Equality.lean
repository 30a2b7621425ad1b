import Preflight.Json.Number

/-!
# Equality of JSON values

Two equalities. `Value.plainEq` counts a boolean as the number zero or one; `Value.schemaEq`, the one
of schemas, keeps booleans and numbers apart at any depth. For both `1` equals `1.0`, and objects
are equal when they give the same names equal values in any order. NaN equals itself inside a
schema.
-/

namespace Preflight.Json

open Decimal

mutual

/-- Equality in which `true` is not `1`. -/
def Value.schemaEq : Value → Value → Bool
  | .null, .null => true
  | .bool a, .bool b => a == b
  | .int a, .int b => a == b
  | .int a, .float y => (Number.int a).equals (.float y)
  | .float x, .int b => (Number.float x).equals (.int b)
  | .float x, .float y => x == .nan && y == .nan || (Number.float x).equals (.float y)
  | .string a, .string b => a == b
  | .array as, .array bs => schemaEqItems as bs
  | .object as, .object bs => as.length == bs.length && schemaEqMembers as bs
  | _, _ => false

def schemaEqItems : List Value → List Value → Bool
  | [], [] => true
  | a :: as, b :: bs => a.schemaEq b && schemaEqItems as bs
  | _, _ => false

/-- Whether every member of the first object has an equal one in the second. -/
def schemaEqMembers : Members → Members → Bool
  | [], _ => true
  | (name, a) :: rest, bs =>
    (match Members.get? bs name with
      | some b => a.schemaEq b
      | none => false) && schemaEqMembers rest bs

end

mutual

/-- Equality in which `true` is `1` and `false` is `0`. -/
def Value.plainEq : Value → Value → Bool
  | .null, .null => true
  | .bool a, .bool b => a == b
  | .string a, .string b => a == b
  | .array as, .array bs => plainEqItems as bs
  | .object as, .object bs => as.length == bs.length && plainEqMembers as bs
  | .bool a, b => numbersEqual (.bool a) b
  | .int a, b => numbersEqual (.int a) b
  | .float x, b => numbersEqual (.float x) b
  | _, _ => false
where
  /-- Whether two values are numbers, booleans among them, and equal. -/
  numbersEqual (a b : Value) : Bool :=
    match a.toNumber?, b.toNumber? with
    | some x, some y => x.equals y
    | _, _ => false

def plainEqItems : List Value → List Value → Bool
  | [], [] => true
  | a :: as, b :: bs => a.plainEq b && plainEqItems as bs
  | _, _ => false

def plainEqMembers : Members → Members → Bool
  | [], _ => true
  | (name, a) :: rest, bs =>
    (match Members.get? bs name with
      | some b => a.plainEq b
      | none => false) && plainEqMembers rest bs

end

end Preflight.Json

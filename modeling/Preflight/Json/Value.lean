import Preflight.Decimal.Binary64
import Preflight.Table

/-!
# JSON values

A decoded document. Whole numbers and floating-point numbers are kept apart, and an object keeps
its members in the order of the text, each name once.
-/

namespace Preflight.Json

open Decimal

inductive Value
  | null
  | bool (b : Bool)
  | int (n : Int)
  | float (x : Binary64)
  | string (s : String)
  | array (items : List Value)
  | object (members : List (String × Value))
  deriving Repr, Inhabited

abbrev Members := Table Value

def Members.get? (members : Members) (name : String) : Option Value := members.lookup name

def Members.has (members : Members) (name : String) : Bool := (members.lookup name).isSome

def Members.names (members : Members) : List String := members.map (·.1)

/-- The members of a text that may repeat names: each name at its first place with its last
value. -/
def Members.ofList (pairs : List (String × Value)) : Members :=
  pairs.foldl (fun members (name, value) => Table.put members name value) []

def Value.typeName : Value → String
  | .null => "NoneType"
  | .bool _ => "bool"
  | .int _ => "int"
  | .float _ => "float"
  | .string _ => "str"
  | .array _ => "list"
  | .object _ => "dict"

/-- Whether a value counts as given: null, false, zeros and empty texts, arrays and objects do
not. -/
def Value.isTruthy : Value → Bool
  | .null => false
  | .bool b => b
  | .int n => n != 0
  | .float x => !x.isZero
  | .string s => s != ""
  | .array items => !items.isEmpty
  | .object members => !members.isEmpty

def Value.get? : Value → String → Option Value
  | .object members, name => Members.get? members name
  | _, _ => none

end Preflight.Json

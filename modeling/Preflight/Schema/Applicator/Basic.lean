import Preflight.Schema.Descent

/-!
# The parts of applicators

The subschemas that the value of a keyword holds, and the phrases that several applicators share.
-/

namespace Preflight.Schema

open Json

/-- The elements of a list with their verbs in one phrase. -/
def extrasPhrase (extras : List Value) : String :=
  ", ".intercalate (extras.map Value.show) ++ if extras.length = 1 then " was" else " were"

def sortedNames (names : List String) : List String := names.mergeSort (· ≤ ·)

def Trace.say (message : String) : Trace := .report (.ofMessage message)

def Trace.sayIf (fails : Bool) (message : String) : Trace := if fails then .say message else .done

/-- The members of an object that a keyword gives schemas to. -/
def schemasByName : Value → List (String × Value)
  | .object table => table
  | _ => []

def schemasListed : Value → List Value
  | .array schemas => schemas
  | _ => []

end Preflight.Schema

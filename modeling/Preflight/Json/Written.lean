import Preflight.Json.Indented

/-!
# Writing JSON on one line

The text of a value in ASCII, members in the order of the object.
-/

namespace Preflight.Json

mutual

def Value.written : Value → String
  | .null => "null"
  | .bool b => if b then "true" else "false"
  | .int n => toString n
  | .float x => writeFloat x
  | .string s => writeString s
  | .array items => "[" ++ ", ".intercalate (itemsWritten items) ++ "]"
  | .object members => "\x7b" ++ ", ".intercalate (membersWritten members) ++ "\x7d"

def itemsWritten : List Value → List String
  | [] => []
  | v :: vs => v.written :: itemsWritten vs

def membersWritten : Members → List String
  | [] => []
  | (name, v) :: rest => (writeString name ++ ": " ++ v.written) :: membersWritten rest

end

end Preflight.Json

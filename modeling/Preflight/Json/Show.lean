import Preflight.Decimal.Shortest
import Preflight.Json.Value
import Preflight.Text.Quoted

/-!
# Values in messages

How a value is shown on one line: `None`, `True`, numbers by their shortest text, quoted texts,
lists in square and objects in curly brackets, members in order.
-/

namespace Preflight.Json

open Text

mutual

def Value.show : Value → String
  | .null => "None"
  | .bool b => if b then "True" else "False"
  | .int n => toString n
  | .float x => x.text
  | .string s => quoted s
  | .array items => "[" ++ ", ".intercalate (showItems items) ++ "]"
  | .object members => "\x7b" ++ ", ".intercalate (showMembers members) ++ "\x7d"

def showItems : List Value → List String
  | [] => []
  | v :: vs => v.show :: showItems vs

def showMembers : Members → List String
  | [] => []
  | (name, v) :: rest => (quoted name ++ ": " ++ v.show) :: showMembers rest

end

/-- A value as running text: a string bare, anything else as `show` has it. -/
def Value.plain : Value → String
  | .string s => s
  | v => v.show

end Preflight.Json

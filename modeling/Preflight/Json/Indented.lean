import Preflight.Decimal.Shortest
import Preflight.Json.Value
import Preflight.Text.Hex

/-!
# Writing JSON

The text of a value in ASCII, indented by two blanks a level, with the names of objects in the order
of their code points; empty lists and objects stay on their line. A name may repeat only if the
value holds it twice, which no decoded value does.
-/

namespace Preflight.Json

open Decimal Text

def unitEscape (n : Nat) : List Char := '\\' :: 'u' :: hexDigits 4 n

def writeChar (c : Char) : List Char :=
  if c = '\x22' then ['\\', '\x22']
  else if c = '\\' then ['\\', '\\']
  else if c = '\n' then ['\\', 'n']
  else if c = '\r' then ['\\', 'r']
  else if c = '\t' then ['\\', 't']
  else if c = '\x0c' then ['\\', 'f']
  else if c = '\x08' then ['\\', 'b']
  else if 32 ≤ c.toNat ∧ c.toNat < 127 then [c]
  else if c.toNat < 0x10000 then unitEscape c.toNat
  else
    unitEscape (0xD800 + (c.toNat - 0x10000) / 1024) ++
      unitEscape (0xDC00 + (c.toNat - 0x10000) % 1024)

def writeString (s : String) : String :=
  String.ofList ('\x22' :: (s.toList.flatMap writeChar ++ ['\x22']))

/-- A floating-point number as JSON, with the three names for what is no number. -/
def writeFloat : Binary64 → String
  | .nan => "NaN"
  | .infinite negative => if negative then "-Infinity" else "Infinity"
  | x => x.text

def newline (level : Nat) : String := String.ofList ('\n' :: List.replicate (2 * level) ' ')

mutual

def Value.write (level : Nat) : Value → String
  | .null => "null"
  | .bool b => if b then "true" else "false"
  | .int n => toString n
  | .float x => writeFloat x
  | .string s => writeString s
  | .array [] => "[]"
  | .array (v :: vs) =>
    let sep := newline (level + 1)
    "[" ++ sep ++ ("," ++ sep).intercalate (writeItems (level + 1) (v :: vs)) ++
      newline level ++ "]"
  | .object [] => "\x7b\x7d"
  | .object (m :: ms) =>
    let sep := newline (level + 1)
    let written := (writeMembers (level + 1) (m :: ms)).mergeSort fun a b => !(b.1 < a.1)
    "\x7b" ++ sep ++ ("," ++ sep).intercalate (written.map (·.2)) ++ newline level ++ "\x7d"

def writeItems (level : Nat) : List Value → List String
  | [] => []
  | v :: vs => v.write level :: writeItems level vs

def writeMembers (level : Nat) : Members → List (String × String)
  | [] => []
  | (name, v) :: rest =>
    (name, writeString name ++ ": " ++ v.write level) :: writeMembers level rest

end

def Value.indented (v : Value) : String := v.write 0

end Preflight.Json

import Preflight.Pattern.Basic
import Preflight.Text.Digit
import Preflight.Text.Hex
import Preflight.Text.Word

/-!
# Tokens of patterns

A pattern is read token by token: a character, or a backslash with the character after it. The reader
keeps the groups opened so far beside the text that is left.
-/

namespace Preflight.Pattern

open Text

def maxWidth : Nat := Nat.pow 2 64

def maxRepeat : Nat := 4294967295

def maxGroups : Nat := 2147483647

/-- The least and the greatest number of characters that something matches. -/
structure Width where
  least : Nat
  most : Nat
  deriving DecidableEq, Repr

/-- What kind of piece an item is, as far as repeating it goes. -/
inductive ItemKind
  | anchor
  | repetition
  | other
  deriving DecidableEq, Repr

/-- A piece read so far, with its width. -/
structure Item where
  kind : ItemKind
  regex : Regex
  width : Width

/-- What a reader keeps: the flags for the whole pattern, the widths of the groups opened so far
(none while open), their names, the first group of the innermost text that must lie behind, and the
groups that conditions ask for. -/
structure Reading where
  flags : Flags
  groups : List (Option Width)
  names : List (String × Nat)
  behindFrom : Option Nat
  asked : List Nat

/-- The reader of a pattern: what it keeps, and the text that is left. -/
abbrev Reader := StateT (Reading × List Char) (Except PatternFault)

def refuse {α : Type} : Reader α := throw .malformed

def rest : Reader (List Char) := return (← get).2

def setRest (s : List Char) : Reader Unit := modify fun (r, _) => (r, s)

def reading : Reader Reading := return (← get).1

def modifyReading (f : Reading → Reading) : Reader Unit := modify fun (r, s) => (f r, s)

/-- A character, or a backslash and the character after it. -/
inductive Token
  | char (c : Char)
  | escape (c : Char)
  deriving DecidableEq, Repr

/-- The next token, left in place. A lone backslash at the end is refused. -/
def peek : Reader (Option Token) := do
  match ← rest with
  | [] => pure none
  | ['\\'] => refuse
  | '\\' :: c :: _ => pure (some (.escape c))
  | c :: _ => pure (some (.char c))

def next : Reader (Option Token) := do
  let token ← peek
  let s ← rest
  match token with
  | none => pure ()
  | some (.char _) => setRest (s.drop 1)
  | some (.escape _) => setRest (s.drop 2)
  pure token

def accept (c : Char) : Reader Bool := do
  if (← peek) == some (.char c) then
    let _ ← next
    pure true
  else pure false

def takeUpTo (p : Char → Bool) : Nat → Reader (List Char)
  | 0 => pure []
  | n + 1 => do
    match ← peek with
    | some (.char c) =>
      if p c then
        let _ ← next
        return c :: (← takeUpTo p n)
      else pure []
    | _ => pure []

def takeName (terminator : Char) : Nat → Reader (List Char)
  | 0 => refuse
  | fuel + 1 => do
    match ← next with
    | none => refuse
    | some (.escape c) => return '\\' :: c :: (← takeName terminator fuel)
    | some (.char c) =>
      if c = terminator then pure [] else return c :: (← takeName terminator fuel)

def nonemptyName (terminator : Char) : Reader (List Char) := do
  let name ← takeName terminator ((← rest).length + 1)
  if name.isEmpty then refuse else pure name

def isGroupName : List Char → Bool
  | [] => false
  | c :: s => isWordChar c && !isDecimalDigit c && s.all isWordChar

def isAsciiDigit (c : Char) : Bool := c.isDigit

def isOctal (c : Char) : Bool := 48 ≤ c.toNat && c.toNat ≤ 55

def numberIn (base : Nat) (digits : List Char) : Nat :=
  digits.foldl (fun n c => base * n + (hexValue? c).getD 0) 0

def hexNumber (n : Nat) : Reader Nat := do
  let digits ← takeUpTo (hexValue? · |>.isSome) n
  if digits.length = n then pure (numberIn 16 digits) else refuse

end Preflight.Pattern

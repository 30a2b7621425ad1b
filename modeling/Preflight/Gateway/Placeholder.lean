import Preflight.Table
import Preflight.Text.Blank
import Preflight.Text.SystemText

/-!
# Placeholders for environment variables

`{{ env "NAME" }}` in a configuration text stands for the value of a variable. Blanks may
stand before `env`, must stand behind it, and may stand behind the name, which is anything but
quotes. Placeholders are looked for once, from left to right; what they are replaced by is not
looked at again.
-/

namespace Preflight.Gateway

open Text

/-- One part of a text with placeholders. -/
inductive TextPiece
  | char (c : Char)
  | variable (name : List Char)
  deriving DecidableEq, Repr

def behind? : List Char → List Char → Option (List Char)
  | [], s => some s
  | c :: cs, d :: s => if c = d then behind? cs s else none
  | _ :: _, [] => none

/-- The name in a placeholder at the head of a text, and the text behind it. -/
def takePlaceholder? (s : List Char) : Option (List Char × List Char) := do
  let s ← behind? [ '\x7b', '\x7b'] s
  let s ← behind? ['e', 'n', 'v'] (s.dropWhile isBlank)
  if (s.head?.map isBlank).getD false then
    let s ← behind? [ '\x22'] (s.dropWhile isBlank)
    let name := s.takeWhile (· != '\x22')
    if name.isEmpty then none
    else
      let s ← behind? [ '\x22'] (s.dropWhile (· != '\x22'))
      let s ← behind? [ '\x7d', '\x7d'] (s.dropWhile isBlank)
      pure (name, s)
  else none

/-- The parts of a text; `covered` characters at its head belong to a placeholder already seen. -/
def textPieces : Nat → List Char → List TextPiece
  | _, [] => []
  | covered + 1, _ :: s => textPieces covered s
  | 0, c :: s =>
    match takePlaceholder? (c :: s) with
    | some (name, rest) => .variable name :: textPieces (s.length - rest.length) s
    | none => .char c :: textPieces 0 s

def variableNames (s : List Char) : List String :=
  (textPieces 0 s).filterMap fun
    | .variable name => some (String.ofList name)
    | .char _ => none

/-- The variables and their values, as the system gives them. -/
abbrev Environment := Table SystemText

/-- The text of a part; an undefined variable is the error. -/
def TextPiece.rendered (env : Environment) : TextPiece → Except String SystemText
  | .char c => .ok [.char c]
  | .variable name =>
    match env.lookup (String.ofList name) with
    | some value => .ok value
    | none => .error (String.ofList name)

/-- The text of parts; the first undefined variable is the error. -/
def renderPieces (env : Environment) : List TextPiece → Except String SystemText
  | [] => .ok []
  | piece :: pieces => do
    let first ← piece.rendered env
    let rest ← renderPieces env pieces
    pure (first ++ rest)

def renderText (env : Environment) (s : List Char) : Except String SystemText :=
  renderPieces env (textPieces 0 s)

end Preflight.Gateway

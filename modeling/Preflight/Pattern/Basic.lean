/-!
# Patterns

The pieces a regular expression is made of. Flags are part of the pieces they bear on, so a pattern
means the same wherever it stands.
-/

namespace Preflight.Pattern

/-- What the letters of inline flags turn on. -/
structure Flags where
  ignoreCase : Bool
  multiLine : Bool
  dotAll : Bool
  verbose : Bool
  ascii : Bool
  deriving DecidableEq, Repr

def Flags.none : Flags := ⟨false, false, false, false, false⟩

inductive Category
  | digit
  | space
  | word
  deriving DecidableEq, Repr

/-- A member of a character set, in code points. -/
inductive Member
  | range (first last : Nat)
  | category (kind : Category) (negated : Bool)
  deriving DecidableEq, Repr

/-- Conditions on the place in the text. -/
inductive Anchor
  | textStart
  | lineStart
  | textEnd
  | lastLineEnd
  | lineEnd
  | boundary
  | insideOrOutside
  deriving DecidableEq, Repr

/-- How a repetition chooses its number. -/
inductive Greed
  | greedy
  | lazy
  | possessive
  deriving DecidableEq, Repr

inductive Regex
  | empty
  | any (newlines : Bool)
  | set (negated : Bool) (members : List Member) (ignoreCase ascii : Bool)
  | anchor (kind : Anchor) (ascii : Bool)
  | seq (first second : Regex)
  | alt (first second : Regex)
  | group (index : Nat) (body : Regex)
  | backref (index : Nat) (ignoreCase ascii : Bool)
  | ahead (negated : Bool) (body : Regex)
  | behind (negated : Bool) (width : Nat) (body : Regex)
  | atomic (body : Regex)
  | repeated (least : Nat) (most : Option Nat) (greed : Greed) (body : Regex)
  | ifGroup (index : Nat) (yes no : Regex)
  deriving DecidableEq, Repr

inductive PatternFault
  | malformed
  | tooManyRepeats
  deriving DecidableEq, Repr

end Preflight.Pattern

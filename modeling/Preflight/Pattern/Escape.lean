import Preflight.Pattern.Token

/-!
# Escapes and sets

What a backslash and a character stand for: one character, a kind of characters, a place or, outside
sets, a group read before. A set lists characters, ranges of them and kinds.
-/

namespace Preflight.Pattern

open Text

/-- The code points of the escapes for control characters. -/
def controlEscape? : Char → Option Nat
  | 'a' => some 7
  | 'b' => some 8
  | 'f' => some 12
  | 'n' => some 10
  | 'r' => some 13
  | 't' => some 9
  | 'v' => some 11
  | '\\' => some 92
  | _ => none

def categoryEscape? : Char → Option Member
  | 'd' => some (.category .digit false)
  | 'D' => some (.category .digit true)
  | 's' => some (.category .space false)
  | 'S' => some (.category .space true)
  | 'w' => some (.category .word false)
  | 'W' => some (.category .word true)
  | _ => none

def numericEscape? (c : Char) : Reader (Option Nat) := do
  match c with
  | 'x' => return some (← hexNumber 2)
  | 'u' => return some (← hexNumber 4)
  | 'U' =>
    let n ← hexNumber 8
    if n < 0x110000 then pure (some n) else refuse
  | 'N' => refuse
  | _ => pure none

def setEscape (c : Char) : Reader Member := do
  match controlEscape? c, categoryEscape? c with
  | some n, _ => pure (.range n n)
  | none, some member => pure member
  | none, none =>
    match ← numericEscape? c with
    | some n => pure (.range n n)
    | none =>
      if isOctal c then
        let n := numberIn 8 (c :: (← takeUpTo isOctal 2))
        if 255 < n then refuse else pure (.range n n)
      else if c.isAlphanum then refuse
      else pure (.range c.toNat c.toNat)

def Member.single? : Member → Option Nat
  | .range first last => if first = last then some first else none
  | .category .. => none

def setToken : Token → Reader Member
  | .char c => pure (.range c.toNat c.toNat)
  | .escape c => setEscape c

/-- Reads the members of a set up to the closing bracket; `start` tells that none was read yet, when
the bracket itself is a member. -/
def readMembers : Nat → Bool → Reader (List Member)
  | 0, _ => refuse
  | fuel + 1, start => do
    match ← next with
    | none => refuse
    | some token =>
      if token = .char ']' ∧ !start then pure []
      else
        let first ← setToken token
        if ← accept '-' then
          match ← next with
          | none => refuse
          | some (.char ']') => pure [first, .range 45 45]
          | some token =>
            let last ← setToken token
            match first.single?, last.single? with
            | some a, some b =>
              if b < a then refuse else return .range a b :: (← readMembers fuel false)
            | _, _ => refuse
        else return first :: (← readMembers fuel false)

def charItem (regex : Regex) : Item := ⟨.other, regex, ⟨1, 1⟩⟩

def literalItem (flags : Flags) (n : Nat) : Item :=
  charItem (.set false [.range n n] flags.ignoreCase flags.ascii)

def anchorItem (flags : Flags) (kind : Anchor) : Item :=
  ⟨.anchor, .anchor kind flags.ascii, ⟨0, 0⟩⟩

/-- Refuses a group that is not closed, or that a text that must lie behind defines itself. -/
def checkBehind (index : Nat) : Reader Unit := do
  let r ← reading
  match r.behindFrom with
  | none => pure ()
  | some first =>
    if (r.groups[index]?.join).isNone || first ≤ index then refuse

def referTo (flags : Flags) (index : Nat) : Reader Item := do
  match (← reading).groups[index]?.join with
  | none => refuse
  | some width =>
    checkBehind index
    pure ⟨.other, .backref index flags.ignoreCase flags.ascii, width⟩

def escapeItem (flags : Flags) (c : Char) : Reader Item := do
  match c with
  | 'A' => pure (anchorItem flags .textStart)
  | 'b' => pure (anchorItem flags .boundary)
  | 'B' => pure (anchorItem flags .insideOrOutside)
  | 'Z' => pure (anchorItem flags .textEnd)
  | _ =>
    match categoryEscape? c, controlEscape? c with
    | some member, _ => pure (charItem (.set false [member] flags.ignoreCase flags.ascii))
    | none, some n => pure (literalItem flags n)
    | none, none =>
      match ← numericEscape? c with
      | some n => pure (literalItem flags n)
      | none =>
        if c = '0' then return literalItem flags (numberIn 8 (← takeUpTo isOctal 2))
        else if c.isDigit then
          let second ← takeUpTo isAsciiDigit 1
          let third ← if isOctal c && second.all isOctal && !second.isEmpty then
              takeUpTo isOctal 1 else pure []
          if third.isEmpty then referTo flags (numberIn 10 (c :: second))
          else
            let n := numberIn 8 (c :: second ++ third)
            if 255 < n then refuse else pure (literalItem flags n)
        else if c.isAlpha then refuse
        else pure (literalItem flags c.toNat)

end Preflight.Pattern

import Preflight.Pattern.Token
import Preflight.Text.Integer

/-!
# Groups and flags

What may follow an opening parenthesis beside a pattern: inline flags, the name of a group, the group
that a condition asks for, a comment.
-/

namespace Preflight.Pattern

open Text

/-- Inline flags, each to be left as it is, turned on or turned off. -/
structure FlagChange where
  on : List Char
  off : List Char

def FlagChange.change (change : FlagChange) (flags : Flags) : Flags :=
  let set (letter : Char) (old : Bool) : Bool :=
    !change.off.contains letter && (change.on.contains letter || old)
  { ignoreCase := set 'i' flags.ignoreCase
    multiLine := set 'm' flags.multiLine
    dotAll := set 's' flags.dotAll
    verbose := set 'x' flags.verbose
    ascii := change.on.contains 'a' || (flags.ascii && !change.on.contains 'u') }

/-- Reads flags up to one of the stops, which comes back with them. -/
def readFlags (stops : List Char) : Nat → Char → Reader (List Char × Char)
  | 0, _ => refuse
  | fuel + 1, letter => do
    if !"imsxau".toList.contains letter then refuse
    else match ← next with
      | some (.char c) =>
        if stops.contains c then pure ([letter], c)
        else
          let (letters, stop) ← readFlags stops fuel c
          pure (letter :: letters, stop)
      | _ => refuse

/-- Reads inline flags from their first letter or the minus sign on. None stands for flags of the
whole pattern. -/
def readFlagChange (first : Char) : Reader (Option FlagChange) := do
  let fuel := (← rest).length + 1
  let (on, stop) ← if first = '-' then pure ([], '-') else readFlags [')', '-', ':'] fuel first
  if on.contains 'a' && on.contains 'u' then refuse
  else if stop = ')' then
    modifyReading fun r => { r with flags := (FlagChange.mk on []).change r.flags }
    pure none
  else if stop = ':' then pure (some ⟨on, []⟩)
  else
    match ← next with
    | some (.char c) =>
      let (off, _) ← readFlags [':'] fuel c
      if off.any (fun f => f == 'a' || f == 'u' || on.contains f) then refuse
      else pure (some ⟨on, off⟩)
    | _ => refuse

def openGroup (name : Option (List Char)) : Reader Nat := do
  let r ← reading
  let index := r.groups.length
  match name with
  | none => modifyReading fun r => { r with groups := r.groups ++ [none] }
  | some name =>
    let name := String.ofList name
    if (r.names.lookup name).isSome then refuse
    else modifyReading fun r =>
      { r with groups := r.groups ++ [none], names := (name, index) :: r.names }
  pure index

def closeGroup (index : Nat) (width : Width) : Reader Unit :=
  modifyReading fun r => { r with groups := r.groups.set index (some width) }

def close : Reader Unit := do
  if ← accept ')' then pure () else refuse

/-- The group that a condition asks for, by name or number. -/
def conditionGroup (name : List Char) : Reader Nat := do
  if isGroupName name then
    match (← reading).names.lookup (String.ofList name) with
    | some index => pure index
    | none => refuse
  else match readInteger? (String.ofList name) with
    | some n =>
      if n ≤ 0 ∨ maxGroups ≤ n.toNat then refuse
      else
        modifyReading fun r => { r with asked := n.toNat :: r.asked }
        pure n.toNat
    | none => refuse

def skipComment : Nat → Reader Unit
  | 0 => refuse
  | fuel + 1 => do
    match ← next with
    | none => refuse
    | some (.char ')') => pure ()
    | some _ => skipComment fuel

def skipLine : Nat → Reader Unit
  | 0 => pure ()
  | fuel + 1 => do
    match ← next with
    | none => pure ()
    | some (.char '\n') => pure ()
    | some _ => skipLine fuel

end Preflight.Pattern

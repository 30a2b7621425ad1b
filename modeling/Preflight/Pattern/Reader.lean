import Preflight.Pattern.Escape
import Preflight.Pattern.Group
import Preflight.Pattern.Repetition

/-!
# Reading patterns

The text of a regular expression to its pieces. A text is refused where a set, group or escape is
left open or unknown, where there is nothing to repeat or a repetition is repeated, where a group is
referred to before it is closed, and where what must lie behind has no fixed width.
-/

namespace Preflight.Pattern

mutual

/-- Reads branches separated by bars. `top` tells that they are the whole pattern, whose first
branch may begin with flags. -/
def readBranches : Nat → Flags → Bool → Bool → Reader (List (Regex × Width))
  | 0, _, _, _ => refuse
  | fuel + 1, flags, top, first => do
    let items ← readItems fuel flags (top && first) []
    let branch := (sequence items, sequenceWidth items)
    if ← accept '|' then
      let current := (← reading).flags
      let flags := if top then current else flags
      return branch :: (← readBranches fuel flags top false)
    else pure [branch]

/-- Reads the items of one branch; those read so far are given in reverse. -/
def readItems : Nat → Flags → Bool → List Item → Reader (List Item)
  | 0, _, _, _ => refuse
  | fuel + 1, flags, mayFlag, items => do
    match ← peek with
    | none | some (.char '|') | some (.char ')') => pure items.reverse
    | some (.escape c) =>
      let _ ← next
      let item ← escapeItem flags c
      readItems fuel flags mayFlag (item :: items)
    | some (.char c) =>
      let _ ← next
      if flags.verbose && (c == ' ' || (9 ≤ c.toNat && c.toNat ≤ 13)) then
        readItems fuel flags mayFlag items
      else if flags.verbose && c == '#' then
        skipLine ((← rest).length + 1)
        readItems fuel flags mayFlag items
      else match c with
        | '[' =>
          let negated ← accept '^'
          let members ← readMembers ((← rest).length + 1) true
          readItems fuel flags mayFlag
            (charItem (.set negated members flags.ignoreCase flags.ascii) :: items)
        | '?' => readItems fuel flags mayFlag (← repeatLast 0 (some 1) items)
        | '*' => readItems fuel flags mayFlag (← repeatLast 0 none items)
        | '+' => readItems fuel flags mayFlag (← repeatLast 1 none items)
        | '\x7b' =>
          if (← peek) == some (.char '\x7d') then
            readItems fuel flags mayFlag (literalItem flags c.toNat :: items)
          else match ← readBounds with
            | some (least, most) =>
              readItems fuel flags mayFlag (← repeatLast least most items)
            | none => readItems fuel flags mayFlag (literalItem flags c.toNat :: items)
        | '.' => readItems fuel flags mayFlag (charItem (.any flags.dotAll) :: items)
        | '^' =>
          readItems fuel flags mayFlag
            (anchorItem flags (if flags.multiLine then .lineStart else .textStart) :: items)
        | '$' =>
          readItems fuel flags mayFlag
            (anchorItem flags (if flags.multiLine then .lineEnd else .lastLineEnd) :: items)
        | '(' =>
          match ← readGroup fuel flags (mayFlag && items.isEmpty) with
          | some item => readItems fuel flags mayFlag (item :: items)
          | none =>
            let current := (← reading).flags
            let flags := if mayFlag && items.isEmpty then current else flags
            readItems fuel flags mayFlag items
        | _ => readItems fuel flags mayFlag (literalItem flags c.toNat :: items)

/-- Reads what follows an opening parenthesis, up to the closing one. Comments and flags of the
whole pattern leave no item. -/
def readGroup : Nat → Flags → Bool → Reader (Option Item)
  | 0, _, _ => refuse
  | fuel + 1, flags, mayFlag => do
    if !(← accept '?') then
      let index ← openGroup none
      let (body, width) := alternatives (← readBranches fuel flags false false)
      close
      closeGroup index width
      pure (some ⟨.other, .group index body, width⟩)
    else match ← next with
      | some (.char 'P') =>
        if ← accept '<' then
          let name ← nonemptyName '>'
          if !isGroupName name then refuse
          else
            let index ← openGroup (some name)
            let (body, width) := alternatives (← readBranches fuel flags false false)
            close
            closeGroup index width
            pure (some ⟨.other, .group index body, width⟩)
        else if ← accept '=' then
          let name ← nonemptyName ')'
          match (← reading).names.lookup (String.ofList name) with
          | some index => return some (← referTo flags index)
          | none => refuse
        else refuse
      | some (.char ':') =>
        let (body, width) := alternatives (← readBranches fuel flags false false)
        close
        pure (some ⟨.other, body, width⟩)
      | some (.char '>') =>
        let (body, width) := alternatives (← readBranches fuel flags false false)
        close
        pure (some ⟨.other, .atomic body, width⟩)
      | some (.char '#') =>
        skipComment ((← rest).length + 1)
        pure none
      | some (.char '=') =>
        let (body, _) := alternatives (← readBranches fuel flags false false)
        close
        pure (some ⟨.other, .ahead false body, ⟨0, 0⟩⟩)
      | some (.char '!') =>
        let (body, _) := alternatives (← readBranches fuel flags false false)
        close
        pure (some ⟨.other, .ahead true body, ⟨0, 0⟩⟩)
      | some (.char '<') =>
        let negated ← match ← next with
          | some (.char '=') => pure false
          | some (.char '!') => pure true
          | _ => refuse
        let outer := (← reading).behindFrom
        if outer.isNone then
          modifyReading fun r => { r with behindFrom := some r.groups.length }
        let (body, width) := alternatives (← readBranches fuel flags false false)
        modifyReading fun r => { r with behindFrom := outer }
        close
        if width.least = width.most then
          pure (some ⟨.other, .behind negated width.least body, ⟨0, 0⟩⟩)
        else refuse
      | some (.char '(') =>
        let index ← conditionGroup (← nonemptyName ')')
        checkBehind index
        let yes ← readItems fuel flags false []
        let no ← if ← accept '|' then
            let no ← readItems fuel flags false []
            if (← peek) == some (.char '|') then refuse else pure no
          else pure []
        close
        let yesWidth := sequenceWidth yes
        let noWidth := sequenceWidth no
        pure (some ⟨.other, .ifGroup index (sequence yes) (sequence no),
          ⟨min yesWidth.least noWidth.least, max yesWidth.most noWidth.most⟩⟩)
      | some (.char c) =>
        match ← readFlagChange c with
        | none => if mayFlag then pure none else refuse
        | some change =>
          let (body, width) :=
            alternatives (← readBranches fuel (change.change flags) false false)
          close
          pure (some ⟨.other, body, width⟩)
      | _ => refuse

end

def compile (text : String) : Except PatternFault Regex :=
  let chars := text.toList
  let read : Reader (List (Regex × Width)) := readBranches (3 * chars.length + 3) .none true true
  match read.run (⟨.none, [none], [], none, []⟩, chars) with
  | .error fault => .error fault
  | .ok (branches, reading, left) =>
    if !left.isEmpty || reading.asked.any (reading.groups.length ≤ ·) then .error .malformed
    else .ok (alternatives branches).1

end Preflight.Pattern

import Preflight.Pattern.Token

/-!
# Repetitions

The items of a branch as one pattern with its width, and the item that repeats the one before it. A
place cannot be repeated, nor can a repetition.
-/

namespace Preflight.Pattern

def sequence : List Item → Regex
  | [] => .empty
  | [item] => item.regex
  | item :: items => .seq item.regex (sequence items)

def sequenceWidth (items : List Item) : Width :=
  ⟨min maxWidth (items.foldl (fun n i => n + i.width.least) 0),
    min maxWidth (items.foldl (fun n i => n + i.width.most) 0)⟩

def alternatives : List (Regex × Width) → Regex × Width
  | [] => (.empty, ⟨0, 0⟩)
  | [branch] => branch
  | (regex, width) :: branches =>
    let (others, otherWidth) := alternatives branches
    (.alt regex others, ⟨min width.least otherWidth.least, max width.most otherWidth.most⟩)

/-- The bounds that braces give, if they close as a repetition; the text is taken away then. -/
def readBounds : Reader (Option (Nat × Option Nat)) := do
  let s ← rest
  let low := s.takeWhile isAsciiDigit
  let s := s.dropWhile isAsciiDigit
  let (high, s) := match s with
    | ',' :: s => (s.takeWhile isAsciiDigit, s.dropWhile isAsciiDigit)
    | s => (low, s)
  match s with
  | '\x7d' :: s =>
    setRest s
    let least := numberIn 10 low
    let most := numberIn 10 high
    if maxRepeat ≤ least then throw .tooManyRepeats
    else if high.isEmpty then pure (some (least, none))
    else if maxRepeat ≤ most then throw .tooManyRepeats
    else if most < least then refuse
    else pure (some (least, some most))
  | _ => pure none

def repeatItem (least : Nat) (most : Option Nat) (item : Item) : Reader Item := do
  if item.kind != .other then refuse
  else
    let greed : Greed ←
      if ← accept '?' then pure .lazy
      else if ← accept '+' then pure .possessive
      else pure .greedy
    let upper := match most with
      | some m => item.width.most * m
      | none => if item.width.most = 0 then 0 else maxWidth
    pure ⟨.repetition, .repeated least most greed item.regex, ⟨item.width.least * least, upper⟩⟩

/-- Repeats the last of the items read so far, given in reverse. -/
def repeatLast (least : Nat) (most : Option Nat) : List Item → Reader (List Item)
  | [] => refuse
  | item :: items => return (← repeatItem least most item) :: items

end Preflight.Pattern

import Preflight.Json.Equality

/-!
# Distinct items

Whether the items of an array are pairwise different. Items that have an order are sorted and
compared with their neighbours only; if two of them have none, all pairs are compared.
-/

namespace Preflight.Schema

open Decimal Json

def sameInOrder : Value → Value → Bool
  | .float .nan, .float .nan => true
  | a, b => a.plainEq b

mutual

/-- Whether one value comes before another: numbers, texts and arrays have an order, and booleans
count as numbers. -/
def before? : Value → Value → Option Bool
  | .string a, .string b => some (a < b)
  | .array as, .array bs => itemsBefore? as bs
  | a, b =>
    match a.toNumber?, b.toNumber? with
    | some x, some y => some (x.less y)
    | _, _ => none

/-- The order of arrays is that of their first items that differ. -/
def itemsBefore? : List Value → List Value → Option Bool
  | [], bs => some (!bs.isEmpty)
  | _ :: _, [] => some false
  | a :: as, b :: bs => if sameInOrder a b then itemsBefore? as bs else before? a b

end

/-- The order of the items to be told apart: booleans have none. -/
def orderedBefore? : Value → Value → Option Bool
  | .bool _, _ => none
  | _, .bool _ => none
  | a, b => before? a b

/-- The items that continue a run, in its order, and the rest. -/
def takeRun (continues : Value → Value → Option Bool) (last : Value) :
    List Value → Option (List Value × List Value)
  | [] => some ([], [])
  | v :: vs => do
    if ← continues last v then
      let (run, rest) ← takeRun continues v vs
      pure (v :: run, rest)
    else pure ([], v :: vs)

/-- The sorted run at the head of a list, a falling one turned round, and the rest. -/
def firstRun? : List Value → Option (List Value × List Value)
  | a :: b :: rest => do
    if ← orderedBefore? b a then
      let (run, rest) ← takeRun (fun last v => orderedBefore? v last) b rest
      pure ((a :: b :: run).reverse, rest)
    else
      let (run, rest) ← takeRun (fun last v => (orderedBefore? v last).map (!·)) b rest
      pure (a :: b :: run, rest)
  | short => some (short, [])

/-- Where an item belongs between two positions of a sorted list, behind its equals. -/
def insertionPoint? (sorted : List Value) (v : Value) (low high : Nat) : Option Nat :=
  if low < high then do
    let middle := low + (high - low) / 2
    if ← orderedBefore? v (sorted.getD middle .null) then insertionPoint? sorted v low middle
    else insertionPoint? sorted v (middle + 1) high
  else some low
termination_by high - low

def insertSorted? (sorted : List Value) (v : Value) : Option (List Value) := do
  let place ← insertionPoint? sorted v 0 sorted.length
  pure (sorted.take place ++ v :: sorted.drop place)

/-- The items in order, if all that were compared have one. -/
def sort? (items : List Value) : Option (List Value) := do
  let (run, rest) ← firstRun? items
  rest.foldlM insertSorted? run

def neighboursDiffer : List Value → Bool
  | a :: b :: rest => !a.schemaEq b && neighboursDiffer (b :: rest)
  | _ => true

def allDiffer : List Value → Bool
  | [] => true
  | v :: vs => !vs.any v.schemaEq && allDiffer vs

def distinct (items : List Value) : Bool :=
  match sort? items with
  | some sorted => neighboursDiffer sorted
  | none => allDiffer items

end Preflight.Schema

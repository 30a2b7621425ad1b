import Preflight.Json.Value

/-!
# Numbers in JSON

Whole and floating-point numbers compare by their exact values. NaN is in no order with anything.
-/

namespace Preflight.Json

open Decimal

/-- A number as the program computes with it. -/
inductive Number
  | int (n : Int)
  | float (x : Binary64)
  deriving DecidableEq, Repr

/-- Compares the quotients `a / b` and `c / d` for positive `b` and `d`. -/
def compareFractions (a : Int) (b : Nat) (c : Int) (d : Nat) : Ordering :=
  compare (a * d) (c * b)

def Number.compare? : Number → Number → Option Ordering
  | .int a, .int b => some (compare a b)
  | .int a, .float x => against a 1 x
  | .float x, .int b => (against b 1 x).map Ordering.swap
  | .float .nan, .float _ => none
  | .float (.infinite s), .float y =>
    match y with
    | .nan => none
    | .infinite t => some (if s = t then .eq else if s then .lt else .gt)
    | .finite .. => some (if s then .lt else .gt)
  | .float (.finite s m e), .float y =>
    match (Binary64.finite s m e).toFraction? with
    | some (a, b) => against a b y
    | none => none
where
  /-- The order of `a / b` and a floating-point number. -/
  against (a : Int) (b : Nat) : Binary64 → Option Ordering
    | .nan => none
    | .infinite negative => some (if negative then .gt else .lt)
    | .finite s m e =>
      let (n, d) := Binary64.ratio m e
      some (compareFractions a b (if s then -(n : Int) else n) d)

def Number.equals (a b : Number) : Bool := a.compare? b == some .eq

def Number.less (a b : Number) : Bool := a.compare? b == some .lt

def Number.atMost (a b : Number) : Bool := a.less b || a.equals b

/-- The number a value is, a boolean counting as zero or one. -/
def Value.toNumber? : Value → Option Number
  | .int n => some (.int n)
  | .float x => some (.float x)
  | .bool b => some (.int (if b then 1 else 0))
  | _ => none

end Preflight.Json

import Preflight.Json.Number
import Preflight.Mishap

/-!
# Multiples

When a number counts as a multiple of another. Against a floating-point divisor the rounded quotient
has to be whole, and the exact one where rounding overflows; against a whole divisor the remainder
has to vanish.
-/

namespace Preflight.Schema

open Decimal Json

/-- A number as binary floating-point; whole numbers may be too large for it. -/
def toBinary64 : Number → Except Mishap Binary64
  | .float x => .ok x
  | .int n =>
    match Binary64.ofInt n with
    | .infinite _ => .error (.overflow "int too large to convert to float")
    | x => .ok x

def quotient (x d : Binary64) : Except Mishap Binary64 :=
  if d.isZero then .error .divisionByZero
  else match x, d with
    | .nan, _ | _, .nan => .ok .nan
    | .infinite _, .infinite _ => .ok .nan
    | .infinite s, .finite t _ _ => .ok (.infinite (s != t))
    | .finite s _ _, .infinite t => .ok (Binary64.zero (s != t))
    | .finite s m e, .finite t n f =>
      let (a, b) := Binary64.ratio m e
      let (c, d) := Binary64.ratio n f
      .ok (Binary64.ofRatio (s != t) (a * d) (b * c))

def exactly : Number → Except Mishap (Int × Nat)
  | .int n => .ok (n, 1)
  | .float .nan => .error .nanQuotient
  | .float x =>
    match x.toFraction? with
    | some q => .ok q
    | none => .error (.overflow "cannot convert Infinity to integer ratio")

def exactlyDivides (n d : Number) : Except Mishap Bool := do
  let (a, b) ← exactly n
  let (c, e) ← exactly d
  if c = 0 then .error .divisionByZero else pure ((a * e) % (b * c) == 0)

def isMultiple (n divisor : Number) : Except Mishap Bool :=
  match divisor with
  | .float d => do
    let x ← toBinary64 n
    match ← quotient x d with
    | .nan => .error .nanQuotient
    | .infinite _ => exactlyDivides n divisor
    | q => pure q.isIntegral
  | .int d =>
    match n with
    | .int n => if d = 0 then .error .divisionByZero else .ok (n % d == 0)
    | .float x => do
      let y ← toBinary64 divisor
      if y.isZero then .error .divisionByZero
      else match x with
        | .finite .. => exactlyDivides (.float x) (.float y)
        | _ => pure false

end Preflight.Schema

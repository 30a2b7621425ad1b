import Preflight.Decimal.Binary64

/-!
# Shortest decimal text

The text of a floating-point number has the fewest decimal digits that read back as the same number,
and among those the digits nearest to it. It is positional for decimal exponents from -4 to 15 and
has a fraction or an exponent always.
-/

namespace Preflight.Decimal

structure Scientific where
  digits : Nat
  power : Int
  deriving DecidableEq, Repr

/-- Compares `a / b` with `c / d` for positive `b` and `d`. -/
def compareRatios (a b c d : Nat) : Ordering := compare (a * d) (c * b)

/-- `digits · 10^power` as a quotient. -/
def Scientific.ratio (s : Scientific) : Nat × Nat :=
  if 0 ≤ s.power then (s.digits * Nat.pow 10 s.power.toNat, 1)
  else (s.digits, Nat.pow 10 (-s.power).toNat)

/-- Whether a decimal number reads back as `m · 2^e`. The reals that do form an interval that
reaches half a unit to both sides (a quarter below a power of two, where the spacing changes), ends
included for an even significand. -/
def Scientific.readsAs (s : Scientific) (m : Nat) (e : Int) : Bool :=
  let gap := if m = Nat.pow 2 52 ∧ Binary64.minExponent < e then 1 else 2
  let (low, d) := Binary64.ratio (4 * m - gap) (e - 2)
  let (high, _) := Binary64.ratio (4 * m + 2) (e - 2)
  let (a, b) := s.ratio
  let allows (o wanted : Ordering) : Bool := o == wanted || (m % 2 == 0 && o == .eq)
  allows (compareRatios a b low d) .gt && allows (compareRatios a b high d) .lt

/-- The power of ten at which the integral part of `n / d` has `count` decimal digits. -/
def powerFor (count : Nat) (n d : Nat) : Int :=
  let guess : Int := ((Nat.toDigits 10 n).length : Int) - (Nat.toDigits 10 d).length - count
  let (a, b) := Scientific.ratio ⟨1, guess⟩
  if n * b / (d * a) < Nat.pow 10 (count - 1) then guess - 1
  else if Nat.pow 10 count ≤ n * b / (d * a) then guess + 1
  else guess

/-- The nearer of the two neighbours of `m · 2^e` with `count` digits that read back as it. -/
def nearest? (m : Nat) (e : Int) (count : Nat) : Option Scientific :=
  let (n, d) := Binary64.ratio m e
  let power := powerFor count n d
  let (a, b) := Scientific.ratio ⟨1, power⟩
  let q := n * b / (d * a)
  let r := n * b % (d * a)
  let below : Scientific := ⟨q, power⟩
  let above : Scientific := ⟨q + 1, power⟩
  let belowFits := below.readsAs m e
  let aboveFits := above.readsAs m e
  if belowFits && aboveFits then
    if 2 * r < d * a then some below
    else if d * a < 2 * r then some above
    else some (if q % 2 = 0 then below else above)
  else if belowFits then some below
  else if aboveFits then some above
  else none

/-- The shortest decimal number that reads back as the positive `m · 2^e`. -/
def shortest (m : Nat) (e : Int) : Scientific :=
  ((List.range 17).findSome? fun i => nearest? m e (i + 1)).getD ⟨m, e⟩

def trimZeros (digits : List Char) : List Char :=
  (digits.reverse.dropWhile (· = '0')).reverse

/-- Digits `d₁d₂…` that stand for `0.d₁d₂… · 10^point`, with a point or an exponent. -/
def layout (digits : List Char) (point : Int) : List Char :=
  if -4 < point ∧ point ≤ 16 then
    if point ≤ 0 then '0' :: '.' :: (List.replicate (-point).toNat '0' ++ digits)
    else
      let whole := digits.take point.toNat
      let fraction := digits.drop point.toNat
      whole ++ List.replicate (point.toNat - whole.length) '0' ++
        '.' :: (if fraction.isEmpty then ['0'] else fraction)
  else
    let exponent := point - 1
    let size := Nat.toDigits 10 exponent.natAbs
    let mantissa := match digits with
      | [d] => [d]
      | d :: ds => d :: '.' :: ds
      | [] => ['0']
    mantissa ++ 'e' :: (if exponent < 0 then '-' else '+') ::
      (if size.length < 2 then '0' :: size else size)

def Binary64.text : Binary64 → String
  | .nan => "nan"
  | .infinite negative => if negative then "-inf" else "inf"
  | .finite negative m e =>
    let body :=
      if m = 0 then "0.0".toList
      else
        let s := shortest m e
        let digits := Nat.toDigits 10 s.digits
        layout (trimZeros digits) (digits.length + s.power)
    String.ofList (if negative then '-' :: body else body)

end Preflight.Decimal

import Preflight.Text.Blank
import Preflight.Text.Digit
import Preflight.Text.Split

/-!
# Integers in free text

A whole number as people write it: white space around it, a sign, decimal digits of any script, single
underscores between digits. The information separators are no white space here.
-/

namespace Preflight.Text

/-- The digits of a number after the first one; `gap` tells that an underscore stands before. -/
def digitsAfter (gap : Bool) (n : Nat) : List Char → Option Nat
  | [] => if gap then none else some n
  | c :: s =>
    match digitValue? c with
    | some d => digitsAfter false (10 * n + d) s
    | none => if c = '_' ∧ !gap then digitsAfter true n s else none

def readDigits? : List Char → Option Nat
  | [] => none
  | c :: s => (digitValue? c).bind fun d => digitsAfter false d s

def isSpace (c : Char) : Bool := isBlank c && !(28 ≤ c.toNat && c.toNat ≤ 31)

def trimSpaces (s : List Char) : List Char :=
  ((s.dropWhile isSpace).reverse.dropWhile isSpace).reverse

def readInteger? (s : String) : Option Int :=
  match trimSpaces s.toList with
  | '-' :: digits => (readDigits? digits).map fun n => -(n : Int)
  | '+' :: digits => (readDigits? digits).map fun n => (n : Int)
  | digits => (readDigits? digits).map fun n => (n : Int)

end Preflight.Text

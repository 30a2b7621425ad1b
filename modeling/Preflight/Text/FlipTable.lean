/-!
# Sets of code points as flip points

A set of numbers is given by the ascending list of the points where membership flips, starting
outside the set: `[9, 14, 32, 33]` is `9..13` together with `32`.
-/

namespace Preflight.Text

/-- Whether `n` lies in the set with the given flip points. -/
def inFlips : List Nat → Nat → Bool
  | [], _ => false
  | p :: ps, n => if n < p then false else !inFlips ps n

@[simp] theorem inFlips_nil (n : Nat) : inFlips [] n = false := rfl

theorem inFlips_of_lt {p n : Nat} {ps : List Nat} (h : n < p) : inFlips (p :: ps) n = false := by
  simp [inFlips, h]

theorem inFlips_pair {a b n : Nat} {ps : List Nat} (hb : b ≤ n) (hab : a ≤ b) :
    inFlips (a :: b :: ps) n = inFlips ps n := by
  have ha : ¬ n < a := by omega
  have hb : ¬ n < b := by omega
  simp [inFlips, ha, hb]

end Preflight.Text

import Preflight.Text.FlipTable

/-!
# White space

A blank is a character with the Unicode white space property or one of the four information
separators U+001C to U+001F.
-/

namespace Preflight.Text

def blankPoints : List Nat := [
  9, 14, 28, 33, 133, 134, 160, 161, 5760, 5761, 8192, 8203, 8232, 8234, 8239, 8240, 8287, 8288,
  12288, 12289]

/-- White space in the Unicode sense, together with the information separators. -/
def isBlank (c : Char) : Bool := inFlips blankPoints c.toNat

theorem isBlank_of_isWhitespace {c : Char} (h : c.isWhitespace = true) : isBlank c = true := by
  simp only [Char.isWhitespace, Bool.or_eq_true, decide_eq_true_eq] at h
  rcases h with ((h | h) | h) | h <;> subst h <;> decide

def trimBlanks (s : List Char) : List Char :=
  ((s.dropWhile isBlank).reverse.dropWhile isBlank).reverse

end Preflight.Text

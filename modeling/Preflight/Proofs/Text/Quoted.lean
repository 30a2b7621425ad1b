import Mathlib.Algebra.Group.Nat.Defs
import Preflight.Proofs.Text.Utf8
import Preflight.Text.Quoted

/-!
# Telling quoted texts apart

An escaped character is read back whatever follows it (`unescapeChar_escapeChar`), and no escape begins
with the quote. So a quoted text does not go on in another one (`eq_of_prefix_quotedChars`).
-/

namespace Preflight.Text

/-! ### Numbers -/

def hexNumber (s : List Char) : Nat := s.foldl (fun n c => 16 * n + (hexValue? c).getD 0) 0

theorem hexValue?_hexDigit : ∀ n, n < 16 → hexValue? (hexDigit n) = some n := by decide

theorem hexNumber_hexDigits (width n : Nat) : hexNumber (hexDigits width n) = n % 16 ^ width := by
  induction width generalizing n with
  | zero => rw [Nat.pow_zero, Nat.mod_one]; rfl
  | succ width ih =>
    have hlast : hexNumber (hexDigits width (n / 16) ++ [hexDigit (n % 16)]) =
        16 * hexNumber (hexDigits width (n / 16)) + (hexValue? (hexDigit (n % 16))).getD 0 :=
      List.foldl_append
    rw [hexDigits, hlast, ih, hexValue?_hexDigit _ (Nat.mod_lt n (by decide)), Option.getD_some,
      Nat.pow_succ', Nat.mod_mul, Nat.add_comm]

/-! ### Characters -/

/-- The character that stands behind a backslash, and what is left of the text. -/
def readEscape : List Char → Option (Char × List Char)
  | 'n' :: s => some ('\n', s)
  | 'r' :: s => some ('\r', s)
  | 't' :: s => some ('\t', s)
  | 'x' :: s => some (Char.ofNat (hexNumber (s.take 2)), s.drop 2)
  | 'u' :: s => some (Char.ofNat (hexNumber (s.take 4)), s.drop 4)
  | 'U' :: s => some (Char.ofNat (hexNumber (s.take 8)), s.drop 8)
  | c :: s => some (c, s)
  | [] => none

/-- The first character that an escaped text stands for, and what is left of the text. -/
def unescapeChar : List Char → Option (Char × List Char)
  | [] => none
  | c :: s => if c = '\\' then readEscape s else some (c, s)

theorem number_of_hexDigits (width : Nat) {c : Char} (h : c.toNat < 16 ^ width) (s : List Char) :
    (Char.ofNat (hexNumber ((hexDigits width c.toNat ++ s).take width)),
      (hexDigits width c.toNat ++ s).drop width) = (c, s) := by
  have hl := length_hexDigits width c.toNat
  rw [List.take_left' hl, List.drop_left' hl, hexNumber_hexDigits, Nat.mod_eq_of_lt h, Char.ofNat_toNat]

variable {quote : Char}

theorem unescapeChar_escapeChar (hq : quote = '\x27' ∨ quote = '\x22') (c : Char) (s : List Char) :
    unescapeChar (escapeChar quote c ++ s) = some (c, s) := by
  unfold escapeChar
  split
  · next hc =>
    rcases hc with rfl | rfl
    · rfl
    · rcases hq with rfl | rfl <;> rfl
  · next hc =>
    split
    · next hn => rw [hn]; rfl
    split
    · next hr => rw [hr]; rfl
    split
    · next ht => rw [ht]; rfl
    split
    · exact if_neg fun he => hc (.inl he)
    split
    · next hx => exact congrArg some (number_of_hexDigits 2 hx s)
    split
    · next hu => exact congrArg some (number_of_hexDigits 4 hu s)
    · have hvalid := isValidChar_toNat c
      exact congrArg some (number_of_hexDigits 8 (by omega) s)

/-- No escape begins with the quote. -/
theorem escapeChar_eq_cons (hq : quote ≠ '\\') (c : Char) :
    ∃ d s, escapeChar quote c = d :: s ∧ d ≠ quote := by
  unfold escapeChar
  split
  · exact ⟨_, _, rfl, hq.symm⟩
  · next hc =>
    -- A character that shows stands for itself; the other escapes begin with a backslash.
    repeat' split
    all_goals
      first
      | exact ⟨_, _, rfl, hq.symm⟩
      | exact ⟨c, [], rfl, fun he => hc (.inr he)⟩

/-! ### Texts -/

theorem quoteOf_eq (s : List Char) : quoteOf s = '\x27' ∨ quoteOf s = '\x22' := by
  unfold quoteOf
  split
  · exact .inr rfl
  · exact .inl rfl

theorem eq_of_prefix_escaped (hq : quote = '\x27' ∨ quote = '\x22') {a b s t : List Char}
    (h : a.flatMap (escapeChar quote) ++ quote :: s <+: b.flatMap (escapeChar quote) ++ quote :: t) :
    a = b := by
  have hslash : quote ≠ '\\' := by rcases hq with rfl | rfl <;> decide
  induction a generalizing b with
  | nil =>
    cases b with
    | nil => rfl
    | cons d b =>
      obtain ⟨e, u, hu, hne⟩ := escapeChar_eq_cons hslash d
      rw [List.flatMap_cons, hu] at h
      exact absurd (List.cons_prefix_cons.mp h).1 hne.symm
  | cons c a ih =>
    cases b with
    | nil =>
      obtain ⟨e, u, hu, hne⟩ := escapeChar_eq_cons hslash c
      rw [List.flatMap_cons, hu] at h
      exact absurd (List.cons_prefix_cons.mp h).1 hne
    | cons d b =>
      rw [List.flatMap_cons, List.flatMap_cons, List.append_assoc, List.append_assoc] at h
      obtain ⟨u, hu⟩ := h
      have hread := congrArg unescapeChar hu
      rw [List.append_assoc, unescapeChar_escapeChar hq, unescapeChar_escapeChar hq, Option.some.injEq,
        Prod.mk.injEq] at hread
      rw [hread.1, ih ⟨u, hread.2⟩]

theorem eq_of_prefix_quotedChars {a b t : List Char} (h : quotedChars a <+: quotedChars b ++ t) :
    a = b := by
  unfold quotedChars at h
  rw [List.cons_append, List.cons_prefix_cons, List.append_assoc] at h
  obtain ⟨hq, h⟩ := h
  rw [← hq] at h
  exact eq_of_prefix_escaped (quoteOf_eq a) h

end Preflight.Text

import Mathlib.Data.List.Basic
import Preflight.Proofs.Schema.Pointer

/-!
# Pointers tell places apart

A pointer is made of a piece for each step, from which two replacements bring back the text of the step
(`pieces_pointer`); so pointers are the same only for steps with the same texts (`pointer_eq_iff`). An index
and a name may have one text, but no value has a place for both, so within one value different places have
different pointers (`eq_of_hasPlace`).
-/

namespace Preflight.Schema

open Json Text

variable {p q steps : List Step} {v : Value}

/-- Whether some steps lead to a place of a value: that of something in it, or of a member that one of its
objects does not have. -/
def hasPlace : Value → List Step → Bool
  | _, [] => true
  | .object members, .name name :: steps =>
    match Members.get? members name with
    | some member => hasPlace member steps
    | none => steps.isEmpty
  | .array items, .index i :: steps =>
    match items[i]? with
    | some item => hasPlace item steps
    | none => false
  | _, _ :: _ => false

/-! ### Pieces -/

/-- The pieces of a pointer between its slashes are a leading one that is empty and the escaped texts of
the steps. -/
theorem splitString_pointer (steps : List Step) :
    splitString '/' (pointer steps) =
      "" :: steps.map fun step => String.ofList (escapeStep step.text.toList) := by
  have hsplit : split '/' (pointerChars steps) =
      [] :: steps.map fun step => escapeStep step.text.toList := split_pointerChars [] steps
  rw [splitString, pointer, String.toList_ofList, hsplit, List.map_cons, List.map_map]
  rfl

/-- The pieces behind the leading one are unescaped to the texts of the steps. -/
theorem pieces_pointer (steps : List Step) :
    (splitString '/' (pointer steps)).tail.map (fun piece => String.ofList (unescapeToken piece.toList)) =
      steps.map Step.text := by
  rw [splitString_pointer, List.tail_cons, List.map_map]
  refine List.map_congr_left fun step _ => ?_
  show String.ofList (unescapeToken (String.ofList (escapeStep step.text.toList)).toList) = step.text
  rw [String.toList_ofList, unescapeToken_escapeStep, String.ofList_toList]

/-- Pointers are the same exactly for steps with the same texts. -/
theorem pointer_eq_iff : pointer p = pointer q ↔ p.map Step.text = q.map Step.text := by
  constructor
  · intro h
    rw [← pieces_pointer p, ← pieces_pointer q, h]
  · intro h
    have hchars (steps : List Step) : pointerChars steps =
        (steps.map Step.text).flatMap fun text => '/' :: escapeStep text.toList := by
      rw [pointerChars, List.flatMap_map]
    rw [pointer, pointer, hchars, hchars, h]

/-! ### Places -/

theorem toString_injective {i j : Nat} (h : toString i = toString j) : i = j := by
  have hdigits : Nat.toDigits 10 i = Nat.toDigits 10 j := by
    have hlist := congrArg String.toList h
    simpa only [Nat.toString_eq_ofList_toDigits, String.toList_ofList] using hlist
  have hnumber := congrArg (fun digits => Nat.ofDigitChars 10 digits 0) hdigits
  simpa using hnumber

/-- Steps to places of one value go into the same objects and arrays, so their texts tell them apart. -/
theorem eq_of_hasPlace (hp : hasPlace v p) (hq : hasPlace v q)
    (h : p.map Step.text = q.map Step.text) : p = q := by
  induction p generalizing v q with
  | nil =>
    rw [List.map_nil] at h
    exact (List.map_eq_nil_iff.1 h.symm).symm
  | cons step p ih =>
    cases q with
    | nil => simp at h
    | cons other q =>
      obtain ⟨htext, hrest⟩ := List.cons.inj h
      cases v with
      | object members =>
        -- both steps are names
        cases step with
        | index i => simp [hasPlace] at hp
        | name n =>
          cases other with
          | index j => simp [hasPlace] at hq
          | name m =>
            obtain rfl : n = m := htext
            cases hm : Members.get? members n with
            | some member =>
              simp only [hasPlace, hm] at hp hq
              rw [ih hp hq hrest]
            | none =>
              simp only [hasPlace, hm, List.isEmpty_iff] at hp hq
              rw [hp, hq]
      | array items =>
        -- both steps are indexes
        cases step with
        | name n => simp [hasPlace] at hp
        | index i =>
          cases other with
          | name m => simp [hasPlace] at hq
          | index j =>
            obtain rfl : i = j := toString_injective htext
            cases hi : items[i]? with
            | some item =>
              simp only [hasPlace, hi] at hp hq
              rw [ih hp hq hrest]
            | none => simp [hasPlace, hi] at hp
      | null | bool _ | int _ | float _ | string _ => simp [hasPlace] at hp

/-- A pointer gives back the texts of its steps: it is split at the slashes, the piece before the first one
is dropped, and in each other piece `~1` is replaced by a slash and then `~0` by a tilde. So the pointers of
two lists of steps are the same exactly if the texts of their steps are; and of two places in one value,
that of an absent member included, only if the places are. -/
theorem pointer_tells_apart :
    (∀ steps : List Step, (splitString '/' (pointer steps)).tail.map
        (fun piece => String.ofList (restore '0' '~' (restore '1' '/' piece.toList))) =
      steps.map Step.text) ∧
    (∀ p q : List Step, pointer p = pointer q ↔ p.map Step.text = q.map Step.text) ∧
    ∀ (v : Value) (p q : List Step), hasPlace v p → hasPlace v q → pointer p = pointer q → p = q :=
  ⟨pieces_pointer, fun _ _ => pointer_eq_iff,
    fun _ _ _ hp hq h => eq_of_hasPlace hp hq (pointer_eq_iff.1 h)⟩

/-- Only in different values may a name and an index have the same pointer. -/
example : pointer [.name "0"] = pointer [.index 0] ∧
    hasPlace (.object [("0", .null)]) [.name "0"] ∧ hasPlace (.array [.null]) [.index 0] := by
  decide +kernel

end Preflight.Schema

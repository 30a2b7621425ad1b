/-!
# Splitting text at a character

`split sep s` has one piece more than `s` has separators, and `joinWith sep` puts the pieces back
together (`joinWith_split`); no piece holds the separator (`notMem_of_mem_split`), and pieces that hold
none are found again (`split_joinWith`).
-/

namespace Preflight.Text

variable {α : Type}

def split [DecidableEq α] (sep : α) : List α → List (List α)
  | [] => [[]]
  | c :: s =>
    if c = sep then [] :: split sep s
    else match split sep s with
      | piece :: pieces => (c :: piece) :: pieces
      | [] => [[c]]

/-- The pieces of a text with a separator between each two. -/
def joinWith (sep : α) : List (List α) → List α
  | [] => []
  | [piece] => piece
  | piece :: pieces => piece ++ sep :: joinWith sep pieces

theorem joinWith_cons_cons (sep : α) (p : List α) {ps : List (List α)} (h : ps ≠ []) :
    joinWith sep (p :: ps) = p ++ sep :: joinWith sep ps := by
  cases ps with
  | nil => exact absurd rfl h
  | cons q qs => rfl

theorem mem_joinWith {sep c : α} {p : List α} {ps : List (List α)} (hp : p ∈ ps) (hc : c ∈ p) :
    c ∈ joinWith sep ps := by
  induction ps with
  | nil => cases hp
  | cons q ps ih =>
    cases ps with
    | nil => rwa [List.mem_singleton.mp hp] at hc
    | cons r ps =>
      rw [joinWith_cons_cons _ _ (List.cons_ne_nil r ps)]
      rcases List.mem_cons.mp hp with rfl | hp
      · exact List.mem_append_left _ hc
      · exact List.mem_append_right _ (List.mem_cons_of_mem _ (ih hp))

theorem joinWith_append (sep : α) (p piece : List α) (pieces : List (List α)) :
    joinWith sep ((p ++ piece) :: pieces) = p ++ joinWith sep (piece :: pieces) := by
  cases pieces <;> simp [joinWith]

theorem joinWith_map {β : Type} (f : α → β) (sep : α) (ps : List (List α)) :
    joinWith (f sep) (ps.map (List.map f)) = (joinWith sep ps).map f := by
  induction ps with
  | nil => rfl
  | cons p ps ih =>
    cases ps with
    | nil => rfl
    | cons q ps =>
      rw [joinWith_cons_cons _ _ (List.cons_ne_nil q ps), List.map_append]
      exact congrArg (p.map f ++ f sep :: ·) ih

theorem intercalate_eq_joinWith (sep : α) (ps : List (List α)) :
    [sep].intercalate ps = joinWith sep ps := by
  induction ps with
  | nil => rfl
  | cons p ps ih =>
    cases ps with
    | nil => simp [List.intercalate, joinWith]
    | cons q ps =>
      rw [joinWith_cons_cons _ _ (List.cons_ne_nil q ps), ← ih]
      simp [List.intercalate]

variable [DecidableEq α]

theorem split_ne_nil (sep : α) (s : List α) : split sep s ≠ [] := by
  cases s with
  | nil => simp [split]
  | cons c s =>
    simp only [split]
    split
    · simp
    · split <;> simp

theorem joinWith_split (sep : α) (s : List α) : joinWith sep (split sep s) = s := by
  induction s with
  | nil => rfl
  | cons c s ih =>
    by_cases h : c = sep
    · subst h
      simp [split, joinWith_cons_cons _ _ (split_ne_nil c s), ih]
    · cases hs : split sep s with
      | nil => exact absurd hs (split_ne_nil sep s)
      | cons p ps =>
        rw [hs] at ih
        cases ps with
        | nil => simpa [split, h, hs, joinWith] using ih
        | cons q qs => simpa [split, h, hs, joinWith] using ih

theorem notMem_of_mem_split {sep : α} {s p : List α} (hp : p ∈ split sep s) : sep ∉ p := by
  induction s generalizing p with
  | nil => simp [split] at hp; simp [hp]
  | cons c s ih =>
    by_cases h : c = sep
    · simp only [split, h, if_true, List.mem_cons] at hp
      rcases hp with rfl | hp
      · simp
      · exact ih hp
    · cases hs : split sep s with
      | nil => exact absurd hs (split_ne_nil sep s)
      | cons q qs =>
        simp only [split, h, if_false, hs, List.mem_cons] at hp
        rcases hp with rfl | hp
        · have := ih (p := q) (by simp [hs])
          simp [this, Ne.symm h]
        · exact ih (by simp [hs, hp])

theorem mem_of_mem_split {sep c : α} {s p : List α} (hp : p ∈ split sep s) (hc : c ∈ p) : c ∈ s := by
  have h : c ∈ joinWith sep (split sep s) := mem_joinWith hp hc
  rwa [joinWith_split] at h

/-- A text without separator is one piece. -/
theorem split_of_notMem {sep : α} {p : List α} (h : sep ∉ p) : split sep p = [p] := by
  induction p with
  | nil => rfl
  | cons c p ih =>
    obtain ⟨hc, hp⟩ := not_or.mp (mt List.mem_cons.mpr h)
    rw [split, if_neg (Ne.symm hc), ih hp]

/-- The first piece of a text ends at its first separator. -/
theorem split_append_cons {sep : α} {p : List α} (h : sep ∉ p) (s : List α) :
    split sep (p ++ sep :: s) = p :: split sep s := by
  induction p with
  | nil => rw [List.nil_append, split, if_pos rfl]
  | cons c p ih =>
    obtain ⟨hc, hp⟩ := not_or.mp (mt List.mem_cons.mpr h)
    rw [List.cons_append, split, if_neg (Ne.symm hc), ih hp]

/-- Text without separator at the head of a text belongs to its first piece. -/
theorem split_append {sep : α} {p s piece : List α} {pieces : List (List α)} (h : sep ∉ p)
    (hs : split sep s = piece :: pieces) : split sep (p ++ s) = (p ++ piece) :: pieces := by
  induction p with
  | nil => exact hs
  | cons c p ih =>
    obtain ⟨hc, hp⟩ := not_or.mp (mt List.mem_cons.mpr h)
    rw [List.cons_append, split, if_neg (Ne.symm hc), ih hp]
    rfl

/-- Pieces without separator are found again in the text put together from them. -/
theorem split_joinWith {sep : α} {ps : List (List α)} (hne : ps ≠ []) (h : ∀ p ∈ ps, sep ∉ p) :
    split sep (joinWith sep ps) = ps := by
  induction ps with
  | nil => exact absurd rfl hne
  | cons p ps ih =>
    obtain ⟨hp, hps⟩ := List.forall_mem_cons.mp h
    cases ps with
    | nil => exact split_of_notMem hp
    | cons q ps =>
      rw [joinWith_cons_cons _ _ (List.cons_ne_nil q ps), split_append_cons hp,
        ih (List.cons_ne_nil q ps) hps]

def splitString (sep : Char) (s : String) : List String :=
  (split sep s.toList).map String.ofList

theorem intercalate_splitString (sep : Char) (s : String) :
    (String.ofList [sep]).intercalate (splitString sep s) = s := by
  have hid : String.toList ∘ String.ofList = id := funext fun _ => String.toList_ofList
  apply String.toList_injective
  rw [String.toList_intercalate, String.toList_ofList, splitString, List.map_map, hid, List.map_id,
    intercalate_eq_joinWith, joinWith_split]

/-- A text without a given character at its end, however often it stands there. -/
def dropTrailing (c : Char) (s : List Char) : List Char :=
  (s.reverse.dropWhile (· = c)).reverse

end Preflight.Text

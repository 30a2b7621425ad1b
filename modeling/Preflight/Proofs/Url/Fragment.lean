import Mathlib.Data.List.DropRight
import Preflight.Schema.Dialect

/-!
# Hash signs at the end of a URL

A hash sign at the end of a URL changes nothing but its fragment, so references are joined to a URL as
to the URL without it (`join_withoutHash`).
-/

namespace Preflight.Url

open Schema Text

def Parts.withoutFragment (u : Parts) : Parts := { u with fragment := [] }

variable {p : Char → Bool} {c : Char}

theorem cutBefore_append (h : p c = true) (s : List Char) :
    cutBefore p (s ++ [c]) = ((cutBefore p s).1, (cutBefore p s).2 ++ [c]) := by
  unfold cutBefore
  induction s with
  | nil => simp [h]
  | cons a s ih =>
    cases ha : p a with
    | true => simp [ha]
    | false =>
      simp only [List.cons_append, List.takeWhile_cons, List.dropWhile_cons, ha, Bool.not_false, if_true]
      rw [Prod.mk.injEq] at ih ⊢
      exact ⟨congrArg (a :: ·) ih.1, ih.2⟩

theorem clean_append_hash (s : List Char) : clean (s ++ [ '#']) = clean s ++ [ '#'] := by
  have hdrop : (s ++ [ '#']).dropWhile (·.toNat ≤ 32) = s.dropWhile (·.toNat ≤ 32) ++ [ '#'] := by
    induction s with
    | nil => rfl
    | cons a s ih =>
      rw [List.cons_append, List.dropWhile_cons, List.dropWhile_cons]
      split
      · exact ih
      · rfl
  unfold clean
  rw [hdrop, List.filter_append]
  rfl

theorem cutAt_fst (s : List Char) : (cutAt c s).1 = (cutBefore (· == c) s).1 := by
  unfold cutAt
  split <;> next h => rw [h]

theorem cutAt_cons {a : Char} (h : a ≠ c) (s : List Char) :
    cutAt c (a :: s) = (a :: (cutAt c s).1, (cutAt c s).2) := by
  have hcut : cutBefore (· == c) (a :: s) =
      (a :: (cutBefore (· == c) s).1, (cutBefore (· == c) s).2) := by
    unfold cutBefore
    rw [List.takeWhile_cons_of_pos (by simpa using h), List.dropWhile_cons_of_pos (by simpa using h)]
  unfold cutAt
  rw [hcut]
  obtain ⟨before, _ | ⟨b, after⟩⟩ := cutBefore (· == c) s
  · rfl
  · rfl

theorem cutAt_self (s : List Char) : cutAt c (c :: s) = ([], some s) := by
  have hcut : cutBefore (· == c) (c :: s) = ([], c :: s) := by
    unfold cutBefore
    rw [List.takeWhile_cons_of_neg (by simp), List.dropWhile_cons_of_neg (by simp)]
  unfold cutAt
  rw [hcut]

theorem cutAt_append {d : Char} (h : d ≠ c) (s : List Char) :
    cutAt c (s ++ [d]) =
      (if (cutAt c s).2.isSome then (cutAt c s).1 else (cutAt c s).1 ++ [d],
        (cutAt c s).2.map (· ++ [d])) := by
  induction s with
  | nil => exact cutAt_cons h []
  | cons a s ih =>
    by_cases ha : a = c
    · subst ha
      rw [List.cons_append, cutAt_self, cutAt_self]
      rfl
    · rw [List.cons_append, cutAt_cons ha, cutAt_cons ha, ih]
      cases (cutAt c s).2 with
      | none => rfl
      | some after => rfl

theorem takeScheme_append_hash (s : List Char) :
    takeScheme (s ++ [ '#']) = ((takeScheme s).1, (takeScheme s).2 ++ [ '#']) := by
  unfold takeScheme
  rw [cutAt_append (by decide)]
  generalize cutAt ':' s = cut
  obtain ⟨before, _ | after⟩ := cut
  · rfl
  · simp only [Option.isSome_some, if_true, Option.map_some]
    split
    · rfl
    · rfl

theorem takeAuthority_append_hash (s : List Char) :
    takeAuthority (s ++ [ '#']) = ((takeAuthority s).1, (takeAuthority s).2 ++ [ '#']) := by
  by_cases hs : ∃ t, s = '/' :: '/' :: t
  · obtain ⟨t, rfl⟩ := hs
    show cutBefore _ (t ++ [ '#']) = _
    rw [cutBefore_append (by decide)]
    rfl
  · have hnone {u : List Char} (hu : ∀ t, u ≠ '/' :: '/' :: t) : takeAuthority u = ([], u) := by
      unfold takeAuthority
      split
      · exact absurd rfl (hu _)
      · rfl
    rw [hnone fun t ht => hs ⟨t, ht⟩, hnone]
    intro t ht
    cases t using List.reverseRecOn with
    | nil => exact absurd (congrArg List.getLast? ht) (by simp)
    | append_singleton t b =>
      rw [← List.cons_append, ← List.cons_append] at ht
      exact hs ⟨t, (List.append_inj' ht rfl).1⟩

/-- A hash sign at the end belongs to the fragment. -/
theorem splitUrl_append_hash (s : List Char) :
    (splitUrl (s ++ [ '#'])).map Parts.withoutFragment = (splitUrl s).map Parts.withoutFragment := by
  unfold splitUrl
  rw [clean_append_hash, takeScheme_append_hash]
  dsimp only
  rw [takeAuthority_append_hash]
  dsimp only
  generalize takeAuthority (takeScheme (clean s)).2 = authority
  split
  · rfl
  · have hcut : (cutAt '#' (authority.2 ++ [ '#'])).1 = (cutAt '#' authority.2).1 := by
      rw [cutAt_fst, cutAt_fst, cutBefore_append (by decide)]
    show Except.ok (Parts.withoutFragment _) = Except.ok (Parts.withoutFragment _)
    unfold Parts.withoutFragment
    dsimp only
    rw [hcut]

theorem splitUrl_withoutHash (s : List Char) :
    (splitUrl (dropTrailing '#' s)).map Parts.withoutFragment =
      (splitUrl s).map Parts.withoutFragment := by
  induction s using List.reverseRecOn with
  | nil => rfl
  | append_singleton s c ih =>
    by_cases hc : c = '#'
    · have hdrop : dropTrailing '#' (s ++ [c]) = dropTrailing '#' s :=
        List.rdropWhile_concat_pos _ _ _ (by simp [hc])
      rw [hdrop, ih, hc, splitUrl_append_hash]
    · have hdrop : dropTrailing '#' (s ++ [c]) = s ++ [c] :=
        List.rdropWhile_concat_neg _ _ _ (by simp [hc])
      rw [hdrop]

/-- Joining a reference looks at no fragment of the base. -/
theorem join_congr {base base' ref : String} (hb : base ≠ "") (hb' : base' ≠ "") (hr : ref ≠ "")
    (h : (splitUrl base.toList).map Parts.withoutFragment =
      (splitUrl base'.toList).map Parts.withoutFragment) : join base ref = join base' ref := by
  unfold join
  simp only [beq_iff_eq, hb, hb', hr, if_false]
  cases hs : splitUrl base.toList with
  | error fault =>
    cases hs' : splitUrl base'.toList with
    | error fault' =>
      rw [hs, hs'] at h
      cases h
      rfl
    | ok u' =>
      rw [hs, hs'] at h
      cases h
  | ok u =>
    cases hs' : splitUrl base'.toList with
    | error fault' =>
      rw [hs, hs'] at h
      cases h
    | ok u' =>
      rw [hs, hs'] at h
      obtain ⟨scheme, authority, path, query, fragment⟩ := u
      obtain ⟨scheme', authority', path', query', fragment'⟩ := u'
      cases h
      rfl

/-- A reference is joined to a URL as to the URL without hash signs at its end. -/
theorem join_withoutHash {uri ref : String} (hu : Dialect.withoutHash uri ≠ "") (hr : ref ≠ "") :
    join (Dialect.withoutHash uri) ref = join uri ref := by
  refine join_congr hu (fun h => hu (by rw [h]; decide)) hr ?_
  unfold Dialect.withoutHash
  rw [String.toList_ofList, splitUrl_withoutHash]

end Preflight.Url

import Preflight.Pattern.Match

/-!
# What pieces of a pattern leave over

A piece of a pattern takes the beginning of a text, and there may be several ways to do so. `Leaves`
says what it can leave over, told by a relation between texts, as long as all that follows looks only at
what is left (`leaves_seq`, `leaves_alt`, `leaves_repeated`). A pattern that is tied to the start of the text is
found where the rest of it matches there (`search_textStart`).
-/

namespace Preflight.Pattern

variable {r r' : Regex} {rel rel' : List Char → List Char → Prop} {k : Next}
  {p : List Char → Prop} {holds : Char → Bool} {members : List Member} {ascii : Bool}

/-- A continuation that succeeds on some texts, whatever came before. -/
def Continues (k : Next) (p : List Char → Prop) : Prop := ∀ s, (k s).isSome = true ↔ p s.rest

/-- A piece can leave over what stands in a relation to the text. -/
def Leaves (r : Regex) (rel : List Char → List Char → Prop) : Prop :=
  ∀ {k p}, Continues k p → Continues (fun s => r.run s k) fun s => ∃ t, rel s t ∧ p t

theorem continues_some : Continues some fun _ => True := fun _ => ⟨fun _ => trivial, fun _ => rfl⟩

theorem Leaves.congr (h : Leaves r rel) (hr : ∀ s t, rel s t ↔ rel' s t) : Leaves r rel' := by
  intro k p hk s
  refine (h hk s).trans ?_
  simp only [hr]

/-- A set matches the characters that it holds. -/
def Accepts (members : List Member) (ascii : Bool) (holds : Char → Bool) : Prop :=
  ∀ c, members.any (Member.holds false ascii c) = holds c

theorem isSome_run_set (h : Accepts members ascii holds) (s : Place) (k : Next) :
    ((Regex.set false members false ascii).run s k).isSome = true ↔
      ∃ c rest, holds c = true ∧ s.rest = c :: rest ∧ (k (s.step c rest)).isSome = true := by
  cases hs : s.rest with
  | nil => simp [Regex.run, hs]
  | cons c rest =>
    simp only [Regex.run, hs, h c, Bool.bne_false]
    constructor
    · intro hk
      cases hc : holds c with
      | false => simp [hc] at hk
      | true => exact ⟨c, rest, hc, rfl, by simpa [hc] using hk⟩
    · rintro ⟨_, _, hc, he, hk⟩
      cases he
      rw [if_pos hc]
      exact hk

theorem leaves_set (h : Accepts members ascii holds) :
    Leaves (.set false members false ascii) fun s t => ∃ c, holds c = true ∧ s = c :: t := by
  intro k p hk s
  refine (isSome_run_set h s k).trans ?_
  constructor
  · rintro ⟨c, rest, hc, hs, hr⟩
    exact ⟨rest, ⟨c, hc, hs⟩, (hk _).mp hr⟩
  · rintro ⟨rest, ⟨c, hc, hs⟩, hp⟩
    exact ⟨c, rest, hc, hs, (hk _).mpr hp⟩

theorem leaves_seq (h : Leaves r rel) (h' : Leaves r' rel') :
    Leaves (.seq r r') fun s t => ∃ u, rel s u ∧ rel' u t := by
  intro k p hk s
  refine (h (h' hk) s).trans ?_
  constructor
  · rintro ⟨u, hu, t, ht, hp⟩
    exact ⟨t, ⟨u, hu, ht⟩, hp⟩
  · rintro ⟨t, ⟨u, hu, ht⟩, hp⟩
    exact ⟨u, hu, t, ht, hp⟩

theorem leaves_alt (h : Leaves r rel) (h' : Leaves r' rel') :
    Leaves (.alt r r') fun s t => rel s t ∨ rel' s t := by
  intro k p hk s
  show ((r.run s k).or (r'.run s k)).isSome = true ↔ _
  rw [Option.isSome_or, Bool.or_eq_true]
  refine (or_congr (h hk s) (h' hk s)).trans ?_
  simp only [or_and_right, exists_or]

theorem leaves_group (index : Nat) (h : Leaves r rel) : Leaves (.group index r) rel := by
  intro k p hk s
  exact h (k := fun t => k (s.capture t index)) (fun t => hk _) s

theorem leaves_lastLineEnd :
    Leaves (.anchor .lastLineEnd ascii) fun s t => (s = [] ∨ s = ['\n']) ∧ t = s := by
  intro k p hk s
  have ha : Anchor.holds ascii s .lastLineEnd = true ↔ s.rest = [] ∨ s.rest = ['\n'] := by
    simp [Anchor.holds]
  show (if Anchor.holds ascii s .lastLineEnd then k s else none).isSome = true ↔ _
  constructor
  · intro h
    split at h
    · next hr => exact ⟨s.rest, ⟨ha.mp hr, rfl⟩, (hk s).mp h⟩
    · cases h
  · rintro ⟨_, ⟨hr, rfl⟩, hp⟩
    rw [if_pos (ha.mpr hr)]
    exact (hk s).mpr hp

/-- The rounds of a greedy repetition, once there were enough of them. -/
theorem isSome_greedyLoop (h : Accepts members ascii holds) (hk : Continues k p) (fuel : Nat) :
    ∀ (count : Nat) (last : Option Nat) (s : Place), 1 ≤ count → s.rest.length < fuel →
      last ≠ some s.position →
      ((greedyLoop (Regex.set false members false ascii).run 1 none k fuel count last s).isSome = true ↔
        ∃ taken t, (∀ c ∈ taken, holds c = true) ∧ s.rest = taken ++ t ∧ p t) := by
  induction fuel with
  | zero => exact fun _ _ _ _ hf => absurd hf (Nat.not_lt_zero _)
  | succ fuel ih =>
    intro count last s hc hf hl
    have hround {c : Char} {rest : List Char} (hs : s.rest = c :: rest) :=
      ih (count + 1) (some s.position) (s.step c rest) (Nat.le_add_left 1 count)
        (by rw [hs] at hf; exact Nat.lt_of_succ_lt_succ hf) (by simp [Place.step])
    have hl : (allows none count && last != some s.position) = true := by simpa [allows] using hl
    rw [greedyLoop, if_neg (Nat.not_lt.mpr hc), if_pos hl, Option.isSome_or, Bool.or_eq_true,
      isSome_run_set h, hk s]
    constructor
    · rintro (⟨c, rest, hh, hs, hr⟩ | hp)
      · obtain ⟨taken, t, ht, he, hp⟩ := (hround hs).mp hr
        exact ⟨c :: taken, t, List.forall_mem_cons.mpr ⟨hh, ht⟩, hs.trans (congrArg _ he), hp⟩
      · exact ⟨[], s.rest, List.forall_mem_nil _, rfl, hp⟩
    · rintro ⟨taken, t, ht, hs, hp⟩
      cases taken with
      | nil => exact .inr (hs ▸ hp)
      | cons c taken =>
        obtain ⟨hh, ht⟩ := List.forall_mem_cons.mp ht
        exact .inl ⟨c, taken ++ t, hh, hs, (hround hs).mpr ⟨taken, t, ht, rfl, hp⟩⟩

theorem leaves_oneOrMore (h : Accepts members ascii holds) :
    Leaves (.repeated 1 none .greedy (.set false members false ascii)) fun s t =>
      ∃ taken, taken ≠ [] ∧ (∀ c ∈ taken, holds c = true) ∧ s = taken ++ t := by
  intro k p hk s
  have hround {c : Char} {rest : List Char} (hs : s.rest = c :: rest) :=
    isSome_greedyLoop h hk (1 + s.rest.length + 2) 1 none (s.step c rest) (Nat.le_refl 1)
      (by rw [hs, List.length_cons]; simp only [Place.step]; omega) (by simp)
  show (greedyLoop _ 1 none k (1 + s.rest.length + 3) 0 none s).isSome = true ↔ _
  rw [greedyLoop, if_pos Nat.one_pos, isSome_run_set h]
  constructor
  · rintro ⟨c, rest, hh, hs, hr⟩
    obtain ⟨taken, t, ht, he, hp⟩ := (hround hs).mp hr
    exact ⟨t, ⟨c :: taken, List.cons_ne_nil _ _, List.forall_mem_cons.mpr ⟨hh, ht⟩,
      hs.trans (congrArg _ he)⟩, hp⟩
  · rintro ⟨t, ⟨taken, hne, ht, hs⟩, hp⟩
    obtain ⟨c, taken, rfl⟩ := List.exists_cons_of_ne_nil hne
    obtain ⟨hh, ht⟩ := List.forall_mem_cons.mp ht
    exact ⟨c, taken ++ t, hh, hs, (hround hs).mpr ⟨taken, t, ht, rfl, hp⟩⟩

/-! ### Searching -/

/-- Behind the start of a text, nothing that is tied to it is found. -/
theorem searchFrom_textStart {before : List Char} (hb : before ≠ []) (position : Nat)
    (text : List Char) :
    searchFrom (.seq (.anchor .textStart ascii) r) position before text = false := by
  have hrun (s : Place) (hs : s.before ≠ []) :
      (Regex.seq (.anchor .textStart ascii) r).run s some = none := by
    show (if Anchor.holds ascii s .textStart then _ else none) = none
    rw [Anchor.holds, List.isEmpty_eq_false_iff.mpr hs]
    rfl
  induction text generalizing before position with
  | nil => rw [searchFrom, hrun _ hb]; rfl
  | cons c text ih => rw [searchFrom, hrun _ hb, ih (List.cons_ne_nil _ _)]; rfl

/-- A pattern tied to the start of a text is found if something can be left over behind it there. -/
theorem search_textStart (h : Leaves r rel) (text : String) :
    (Regex.seq (.anchor .textStart ascii) r).search text = true ↔ ∃ t, rel text.toList t := by
  have hrun (s : List Char) :
      ((Regex.seq (.anchor .textStart ascii) r).run ⟨0, [], s, []⟩ some).isSome = true ↔
        ∃ t, rel s t := by
    refine (h continues_some ⟨0, [], s, []⟩).trans ?_
    simp
  unfold Regex.search
  cases text.toList with
  | nil => exact hrun []
  | cons c rest =>
    rw [searchFrom, searchFrom_textStart (List.cons_ne_nil _ _), Bool.or_false]
    exact hrun (c :: rest)

end Preflight.Pattern

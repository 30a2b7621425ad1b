import Mathlib.Data.List.Basic
import Preflight.Routing.Tree

/-!
# Segments that live together

What a path must look like to be a route, and which segments two routes may have where they part:
`WellNamed` for one segment, `PartWell` for two lists of segments. Reading a segment accepts
exactly the well-named ones (`ofText_static`, `ofText_param`, `ofText_catchAll`, `ofText_error`).
-/

namespace Preflight.Routing

open Text

/-- At most one wildcard, as the first character and with a name behind it. -/
def WellNamed (text : String) : Prop :=
  (∀ c ∈ text.toList.tail, isWildcard c = false) ∧ text ≠ ":" ∧ text ≠ "*"

def IsCatchAll (text : String) : Prop := text.toList.head? = some '*'

def IsParam (text : String) : Prop := text.toList.head? = some ':'

/-- Two different segments that may stand at one place of two routes. -/
def MayPart (a b : String) : Prop := ¬ IsCatchAll a ∧ ¬ IsCatchAll b ∧ ¬ (IsParam a ∧ IsParam b)

/-- Where the segments of two paths first differ, if they do, they may part. -/
def PartWell : List String → List String → Prop
  | a :: s, b :: t => if a = b then PartWell s t else MayPart a b
  | _, _ => True

instance (text : String) : Decidable (WellNamed text) :=
  @instDecidableAnd _ _ (List.decidableBAll _ _) inferInstance

instance (text : String) : Decidable (IsCatchAll text) := inferInstanceAs (Decidable (_ = _))

instance (text : String) : Decidable (IsParam text) := inferInstanceAs (Decidable (_ = _))

instance (a b : String) : Decidable (MayPart a b) := inferInstanceAs (Decidable (_ ∧ _))

instance PartWell.decidable : (s t : List String) → Decidable (PartWell s t)
  | [], _ | _ :: _, [] => isTrue (by simp [PartWell])
  | a :: s, b :: t =>
    if h : a = b then
      have := PartWell.decidable s t
      decidable_of_iff (PartWell s t) (by simp [PartWell, h])
    else decidable_of_iff (MayPart a b) (by simp [PartWell, h])

theorem MayPart.symm {a b : String} (h : MayPart a b) : MayPart b a :=
  ⟨h.2.1, h.1, fun hp => h.2.2 hp.symm⟩

@[simp] theorem partWell_nil_left (t : List String) : PartWell [] t := by simp [PartWell]

@[simp] theorem partWell_nil_right (s : List String) : PartWell s [] := by cases s <;> simp [PartWell]

theorem partWell_cons (a b : String) (s t : List String) :
    PartWell (a :: s) (b :: t) ↔ (a = b ∧ PartWell s t) ∨ (a ≠ b ∧ MayPart a b) := by
  by_cases h : a = b <;> simp [PartWell, h]

theorem PartWell.symm {s t : List String} (h : PartWell s t) : PartWell t s := by
  induction s generalizing t with
  | nil => exact partWell_nil_right t
  | cons a s ih =>
    cases t with
    | nil => exact partWell_nil_left _
    | cons b t =>
      rw [partWell_cons] at h ⊢
      rcases h with ⟨rfl, h⟩ | ⟨hne, h⟩
      · exact .inl ⟨rfl, ih h⟩
      · exact .inr ⟨Ne.symm hne, h.symm⟩

/-- A beginning of a path parts from another where the whole path does. -/
theorem PartWell.of_start {s d t : List String} (hs : s <+: d) (h : PartWell d t) : PartWell s t := by
  induction s generalizing d t with
  | nil => exact partWell_nil_left t
  | cons a s ih =>
    obtain ⟨r, rfl⟩ := hs
    cases t with
    | nil => exact partWell_nil_right _
    | cons b t =>
      rw [List.cons_append, partWell_cons] at h
      rw [partWell_cons]
      rcases h with ⟨hab, h⟩ | h
      · exact .inl ⟨hab, ih ⟨r, rfl⟩ h⟩
      · exact .inr h

theorem isCatchAll_iff {text : String} : IsCatchAll text ↔ ∃ name, text = "*" ++ name := by
  constructor
  · intro h
    cases hl : text.toList with
    | nil => simp [IsCatchAll, hl] at h
    | cons c name =>
      simp only [IsCatchAll, hl, List.head?_cons, Option.some.injEq] at h
      exact ⟨String.ofList name, String.toList_injective (by simp [hl, h])⟩
  · rintro ⟨name, rfl⟩
    simp [IsCatchAll]

theorem isParam_iff {text : String} : IsParam text ↔ ∃ name, text = ":" ++ name := by
  constructor
  · intro h
    cases hl : text.toList with
    | nil => simp [IsParam, hl] at h
    | cons c name =>
      simp only [IsParam, hl, List.head?_cons, Option.some.injEq] at h
      exact ⟨String.ofList name, String.toList_injective (by simp [hl, h])⟩
  · rintro ⟨name, rfl⟩
    simp [IsParam]

theorem IsCatchAll.not_isParam {text : String} (h : IsCatchAll text) : ¬ IsParam text := by
  intro hp
  have : some '*' = some ':' := h.symm.trans hp
  exact absurd this (by decide)

/-! ### Reading a segment -/

theorem countP_tail_eq_zero {text : String} (h : WellNamed text) :
    text.toList.tail.countP isWildcard = 0 := by
  rw [List.countP_eq_zero]
  intro c hc
  simp [h.1 c hc]

theorem ofText_catchAll (path : String) {name : String} (h : WellNamed ("*" ++ name)) :
    Segment.ofText path ("*" ++ name) = .ok (.catchAll name) := by
  have hc := countP_tail_eq_zero h
  have hl : ("*" ++ name).toList = '*' :: name.toList := by simp
  have hname : name.toList ≠ [] := fun hn => h.2.2 (String.toList_injective (by simp [hn]))
  rw [hl, List.tail_cons] at hc
  simp [Segment.ofText, hl, hc, isWildcard, hname]

theorem ofText_param (path : String) {name : String} (h : WellNamed (":" ++ name)) :
    Segment.ofText path (":" ++ name) = .ok (.param name) := by
  have hc := countP_tail_eq_zero h
  have hl : (":" ++ name).toList = ':' :: name.toList := by simp
  have hname : name.toList ≠ [] := fun hn => h.2.1 (String.toList_injective (by simp [hn]))
  rw [hl, List.tail_cons] at hc
  simp [Segment.ofText, hl, hc, isWildcard, hname]

theorem ofText_static (path : String) {text : String} (h : WellNamed text) (hc : ¬ IsCatchAll text)
    (hp : ¬ IsParam text) : Segment.ofText path text = .ok (.static text) := by
  have htail := countP_tail_eq_zero h
  cases hl : text.toList with
  | nil => simp [Segment.ofText, hl]
  | cons c name =>
    simp only [IsCatchAll, IsParam, hl, List.head?_cons, Option.some.injEq] at hc hp
    have hw : isWildcard c = false := by simp [isWildcard, hc, hp]
    rw [hl, List.tail_cons] at htail
    simp [Segment.ofText, hl, htail, hw]

theorem ofText_error (path : String) {text : String} (h : ¬ WellNamed text) :
    ∃ conflict, Segment.ofText path text = .error conflict ∧ conflict ≠ .taken path := by
  cases hl : text.toList with
  | nil =>
    refine absurd ⟨by simp [hl], ?_, ?_⟩ h <;> rintro rfl <;> simp at hl
  | cons c name =>
    have hcount : (c :: name).countP isWildcard = name.countP isWildcard + if isWildcard c then 1 else 0 :=
      List.countP_cons
    by_cases hbare : text = ":" ∨ text = "*"
    · rcases hbare with rfl | rfl <;> exact ⟨_, rfl, by simp⟩
    · have htail : name.countP isWildcard ≠ 0 := by
        intro h0
        rw [List.countP_eq_zero] at h0
        exact h ⟨by simpa [hl] using h0, not_or.1 hbare⟩
      -- a wildcard behind the head: it is the only one, or there are several
      unfold Segment.ofText
      rw [hl, hcount]
      by_cases hw : isWildcard c = true
      · obtain ⟨n, hn⟩ : ∃ n, name.countP isWildcard = n + 1 := Nat.exists_eq_succ_of_ne_zero htail
        simp [hw, hn]
      · obtain ⟨n, hn⟩ : ∃ n, name.countP isWildcard = n + 1 := Nat.exists_eq_succ_of_ne_zero htail
        cases n with
        | zero => simp [hw, hn]
        | succ n => simp [hw, hn]

theorem wellNamed_of_ofText_ok {path text : String} {segment : Segment}
    (h : Segment.ofText path text = .ok segment) : WellNamed text := by
  by_contra hn
  obtain ⟨conflict, he, -⟩ := ofText_error path hn
  rw [he] at h
  cases h

end Preflight.Routing

import Mathlib.Data.List.Forall2

/-!
# Results, one after another

What the result of computations that may fail says of the computations: of two in a row, of one for each
element of a list, and of one that goes on from the result before. A list of pairs that has one value for a
key finds it.
-/

namespace Preflight

variable {ε ε' α β : Type}

/-! ### Two computations in a row -/

theorem bind_ok_iff {x : Except ε α} {f : α → Except ε β} {b : β} :
    x >>= f = .ok b ↔ ∃ a, x = .ok a ∧ f a = .ok b := by
  cases x with
  | error e =>
    refine ⟨fun h => ?_, ?_⟩
    · cases h
    · rintro ⟨a, ha, -⟩
      cases ha
  | ok a =>
    refine ⟨fun h => ⟨a, rfl, h⟩, ?_⟩
    rintro ⟨a', ha, h⟩
    cases ha
    exact h

theorem bind_error_iff {x : Except ε α} {f : α → Except ε β} {e : ε} :
    x >>= f = .error e ↔ x = .error e ∨ ∃ a, x = .ok a ∧ f a = .error e := by
  cases x with
  | error e' =>
    constructor
    · intro h
      cases h
      exact .inl rfl
    · rintro (h | ⟨a, ha, -⟩)
      · cases h
        rfl
      · cases ha
  | ok a =>
    refine ⟨fun h => .inr ⟨a, rfl, h⟩, ?_⟩
    rintro (h | ⟨a', ha, h⟩)
    · cases h
    · cases ha
      exact h

theorem map_ok_iff {f : α → β} {x : Except ε α} {b : β} :
    x.map f = .ok b ↔ ∃ a, x = .ok a ∧ f a = b := by
  cases x with
  | ok a =>
    refine ⟨fun h => ⟨a, rfl, Except.ok.inj h⟩, ?_⟩
    rintro ⟨a', ha, rfl⟩
    cases ha
    rfl
  | error e =>
    constructor
    · intro h
      cases h
    · rintro ⟨a, ha, -⟩
      cases ha

theorem map_error_iff {f : α → β} {x : Except ε α} {e : ε} : x.map f = .error e ↔ x = .error e := by
  cases x with
  | ok a =>
    constructor
    · intro h
      cases h
    · intro h
      cases h
  | error e' => exact ⟨fun h => congrArg _ (Except.error.inj h), fun h => congrArg _ (Except.error.inj h)⟩

/-- A fault told in other words makes no success. -/
theorem mapError_ok_iff {f : ε → ε'} {x : Except ε α} {a : α} :
    x.mapError f = .ok a ↔ x = .ok a := by
  cases x with
  | ok a' => exact ⟨fun h => congrArg _ (Except.ok.inj h), fun h => congrArg _ (Except.ok.inj h)⟩
  | error e =>
    refine ⟨fun h => ?_, fun h => ?_⟩
    · cases h
    · cases h

theorem mapError_error_iff {f : ε → ε'} {x : Except ε α} {e' : ε'} :
    x.mapError f = .error e' ↔ ∃ e, x = .error e ∧ f e = e' := by
  cases x with
  | ok a =>
    refine ⟨fun h => ?_, ?_⟩
    · cases h
    · rintro ⟨e, he, -⟩
      cases he
  | error e =>
    refine ⟨fun h => ⟨e, rfl, Except.error.inj h⟩, ?_⟩
    rintro ⟨e₁, he, h⟩
    cases he
    exact congrArg _ h

theorem eq_ok_of_toOption {x : Except ε α} {a : α} (h : x.toOption = some a) :
    x = .ok a := by
  cases x with
  | error e => cases h
  | ok a' =>
    cases h
    rfl

theorem exists_ok_of_isSome {r : Except ε α} (h : r.toOption.isSome = true) :
    ∃ a, r = .ok a := by
  cases r with
  | ok a => exact ⟨a, rfl⟩
  | error e => cases h

theorem toOption_map (f : α → β) (r : Except ε α) :
    (f <$> r).toOption = r.toOption.map f := by
  cases r <;> rfl

theorem toOption_bind (r : Except ε α) (f : α → Except ε β) :
    (r >>= f).toOption = r.toOption.bind fun a => (f a).toOption := by
  cases r <;> rfl

/-! ### Lists -/

theorem exists_mapM {f : α → Except ε β} {l : List α}
    (h : ∀ a ∈ l, ∃ b, f a = .ok b) : ∃ bs, l.mapM f = .ok bs := by
  induction l with
  | nil => exact ⟨[], rfl⟩
  | cons a l ih =>
    obtain ⟨⟨b, hb⟩, hl⟩ := List.forall_mem_cons.mp h
    obtain ⟨bs, hbs⟩ := ih hl
    refine ⟨b :: bs, ?_⟩
    rw [List.mapM_cons]
    exact bind_ok_iff.mpr ⟨b, hb, bind_ok_iff.mpr ⟨bs, hbs, rfl⟩⟩

theorem mapM_ok_of_forall {f g : α → Except ε β} {h : β → β}
    (hfg : ∀ a b, f a = .ok b → g a = .ok (h b)) {l : List α} {bs : List β} (hl : l.mapM f = .ok bs) :
    l.mapM g = .ok (bs.map h) := by
  induction l generalizing bs with
  | nil =>
    cases hl
    rfl
  | cons a l ih =>
    rw [List.mapM_cons] at hl ⊢
    obtain ⟨b, hb, hl⟩ := bind_ok_iff.mp hl
    obtain ⟨bs, hbs, hl⟩ := bind_ok_iff.mp hl
    cases hl
    exact bind_ok_iff.mpr ⟨h b, hfg a b hb, bind_ok_iff.mpr ⟨bs.map h, ih hbs, rfl⟩⟩

theorem forall_mem_of_mapM {f : α → Except ε β} {p : β → Prop}
    (hf : ∀ a b, f a = .ok b → p b) {l : List α} {bs : List β} (hl : l.mapM f = .ok bs) :
    ∀ b ∈ bs, p b := by
  induction l generalizing bs with
  | nil =>
    cases hl
    exact List.forall_mem_nil _
  | cons a l ih =>
    rw [List.mapM_cons] at hl
    obtain ⟨b, hb, hl⟩ := bind_ok_iff.mp hl
    obtain ⟨bs, hbs, hl⟩ := bind_ok_iff.mp hl
    cases hl
    exact List.forall_mem_cons.mpr ⟨hf a b hb, ih hbs⟩

theorem forall₂_of_mapM {f : α → Except ε β} {r : α → β → Prop}
    (hf : ∀ a b, f a = .ok b → r a b) {l : List α} {bs : List β} (hl : l.mapM f = .ok bs) :
    List.Forall₂ r l bs := by
  induction l generalizing bs with
  | nil =>
    cases hl
    exact .nil
  | cons a l ih =>
    rw [List.mapM_cons] at hl
    obtain ⟨b, hb, hl⟩ := bind_ok_iff.mp hl
    obtain ⟨bs, hbs, hl⟩ := bind_ok_iff.mp hl
    cases hl
    exact .cons (hf a b hb) (ih hbs)

theorem foldlM_ok {f : β → α → Except ε β} {l : List α}
    (h : ∀ a ∈ l, ∀ b, ∃ b', f b a = .ok b') (b : β) : ∃ b', l.foldlM f b = .ok b' := by
  induction l generalizing b with
  | nil => exact ⟨b, rfl⟩
  | cons a l ih =>
    obtain ⟨ha, hl⟩ := List.forall_mem_cons.mp h
    obtain ⟨b', hb⟩ := ha b
    obtain ⟨b'', hb'⟩ := ih hl b'
    exact ⟨b'', by rw [List.foldlM_cons, hb]; exact hb'⟩

theorem filterMap_cons_toList (f : α → Option β) (a : α) (l : List α) :
    (a :: l).filterMap f = (f a).toList ++ l.filterMap f := by
  rw [List.filterMap_cons]
  cases f a <;> rfl

theorem lookup_of_unique {κ α : Type} [BEq κ] [LawfulBEq κ] {l : List (κ × α)} {k : κ} {a : α}
    (hm : (k, a) ∈ l) (hu : ∀ b, (k, b) ∈ l → b = a) : l.lookup k = some a := by
  induction l with
  | nil => cases hm
  | cons x l ih =>
    obtain ⟨k', b⟩ := x
    by_cases hk : k = k'
    · subst hk
      rw [List.lookup_cons_self, hu b List.mem_cons_self]
    · have hm : (k, a) ∈ l := by
        rcases List.mem_cons.mp hm with h | h
        · cases h
          exact absurd rfl hk
        · exact h
      rw [List.lookup_cons, beq_eq_false_iff_ne.mpr hk]
      exact ih hm fun b hb => hu b (List.mem_cons_of_mem _ hb)

end Preflight

import Preflight.Report.Emoji

/-!
# Texts without emoji codes

Codes are looked for piece by piece: none goes on behind a blank or the edge of a tag (`withEmoji_append`).
Signs among which there is no code that the screen knows are left as they are (`withEmoji_eq_letters`).
-/

namespace Preflight.Report

open Text

def letters (signs : List Sign) : List Char := signs.filterMap fun
  | .char c => some c
  | .tag _ => none

/-- The names among some signs that stand between two colons, without a blank or the edge of a tag. -/
def codeNames : List Sign → List (List Char)
  | [] => []
  | .char c :: s => (if c = ':' then (codeName? s).toList else []) ++ codeNames s
  | .tag _ :: s => codeNames s

/-- No name among some signs is known as that of an emoji. -/
def CodelessSigns (screen : Screen) (signs : List Sign) : Prop :=
  ∀ name ∈ codeNames signs, emojiFor screen name = none

/-- Text without an emoji code that the screen knows. -/
def Codeless (screen : Screen) (s : List Char) : Prop := CodelessSigns screen (s.map .char)

instance (screen : Screen) (signs : List Sign) : Decidable (CodelessSigns screen signs) :=
  List.decidableBAll _ _

instance (screen : Screen) (s : List Char) : Decidable (Codeless screen s) :=
  inferInstanceAs (Decidable (CodelessSigns screen _))

/-- A sign that no code goes across. -/
def Sign.Parts : Sign → Prop
  | .char c => isBlank c = true
  | .tag _ => True

variable {screen : Screen} {signs a b : List Sign} {m : Sign} {s t name : List Char} {c : Char}

@[simp] theorem letters_nil : letters [] = [] := rfl

@[simp] theorem letters_char (c : Char) (s : List Sign) : letters (.char c :: s) = c :: letters s := rfl

@[simp] theorem letters_tag (style : Option (List Char)) (s : List Sign) :
    letters (.tag style :: s) = letters s := rfl

@[simp] theorem letters_append (a b : List Sign) : letters (a ++ b) = letters a ++ letters b :=
  List.filterMap_append

@[simp] theorem letters_map_char (s : List Char) : letters (s.map .char) = s := by
  induction s with
  | nil => rfl
  | cons c s ih => rw [List.map_cons, letters_char, ih]

/-! ### Names between colons -/

theorem codeName?_char (h : c ≠ ':') (hc : isBlank c = false) (s : List Sign) :
    codeName? (.char c :: s) = (codeName? s).map (c :: ·) := by
  rw [codeName?, if_neg h, hc]
  rfl

theorem codeName?_parts (h : m.Parts) (s : List Sign) : codeName? (m :: s) = none := by
  cases m with
  | tag style => rfl
  | char c =>
    have hblank : isBlank c = true := h
    have hc : c ≠ ':' := by
      rintro rfl
      exact absurd hblank (by decide)
    rw [codeName?, if_neg hc, if_pos hblank]

theorem eq_of_codeName? (h : codeName? signs = some name) :
    signs = name.map .char ++ .char ':' :: signs.drop (name.length + 1) := by
  induction signs generalizing name with
  | nil => cases h
  | cons sign signs ih =>
    cases sign with
    | tag style => cases h
    | char c =>
      by_cases hc : c = ':'
      · rw [codeName?, if_pos hc] at h
        cases h
        rw [hc]
        rfl
      · by_cases hb : isBlank c = true
        · rw [codeName?_parts (show (Sign.char c).Parts from hb)] at h
          cases h
        · rw [codeName?_char hc (Bool.eq_false_iff.mpr hb)] at h
          obtain ⟨rest, hr, rfl⟩ := Option.map_eq_some_iff.mp h
          exact congrArg _ (ih hr)

theorem length_of_codeName? (h : codeName? signs = some name) : name.length + 1 ≤ signs.length := by
  have hl := congrArg List.length (eq_of_codeName? h)
  simp only [List.length_append, List.length_map, List.length_cons] at hl
  omega

theorem codeName?_append (hm : m.Parts) (a b : List Sign) : codeName? (a ++ m :: b) = codeName? a := by
  induction a with
  | nil => exact codeName?_parts hm b
  | cons sign a ih =>
    cases sign with
    | tag style => rfl
    | char c => rw [List.cons_append, codeName?, codeName?, ih]

theorem codeName?_append_of_some (h : codeName? a = some name) (b : List Sign) :
    codeName? (a ++ b) = some name := by
  induction a generalizing name with
  | nil => cases h
  | cons sign a ih =>
    cases sign with
    | tag style => cases h
    | char c =>
      rw [codeName?] at h
      rw [List.cons_append, codeName?]
      split at h
      · next hc => rw [if_pos hc, h]
      · next hc =>
        split at h
        · cases h
        · next hb =>
          obtain ⟨rest, hr, rfl⟩ := Option.map_eq_some_iff.mp h
          rw [if_neg hc, if_neg hb, ih hr]
          rfl

theorem codeName?_of_some (h : codeName? signs = some name) (b : List Sign) :
    codeName? (name.map .char ++ .char ':' :: b) = some name := by
  induction signs generalizing name with
  | nil => cases h
  | cons sign signs ih =>
    cases sign with
    | tag style => cases h
    | char c =>
      rw [codeName?] at h
      split at h
      · cases h
        rfl
      · next hc =>
        split at h
        · cases h
        · next hb =>
          obtain ⟨rest, hr, rfl⟩ := Option.map_eq_some_iff.mp h
          rw [List.map_cons, List.cons_append, codeName?, if_neg hc, if_neg hb, ih hr]
          rfl

/-- A name among signs is one among their characters. -/
theorem codeName?_letters (h : codeName? signs = some name) :
    codeName? ((letters signs).map .char) = some name := by
  rw [eq_of_codeName? h, letters_append, letters_map_char, letters_char, List.map_append, List.map_cons]
  exact codeName?_of_some h _

/-! ### Codeless text -/

theorem codeNames_letters (signs : List Sign) :
    ∀ name ∈ codeNames signs, name ∈ codeNames ((letters signs).map .char) := by
  induction signs with
  | nil => exact fun _ h => h
  | cons sign signs ih =>
    cases sign with
    | tag style => exact ih
    | char c =>
      intro name hn
      rw [letters_char, List.map_cons, codeNames, List.mem_append]
      rw [codeNames, List.mem_append] at hn
      refine hn.imp (fun hn => ?_) (ih name)
      split at hn
      · next hc =>
        rw [if_pos hc, Option.mem_toList, codeName?_letters (Option.mem_toList.mp hn)]
      · cases hn

theorem codelessSigns_of_letters (h : Codeless screen (letters signs)) : CodelessSigns screen signs :=
  fun name hn => h name (codeNames_letters signs name hn)

theorem codeNames_append (hm : m.Parts) (a b : List Sign) :
    codeNames (a ++ m :: b) = codeNames a ++ codeNames (m :: b) := by
  induction a with
  | nil => rfl
  | cons sign a ih =>
    cases sign with
    | tag style => exact ih
    | char c =>
      rw [List.cons_append, codeNames, codeNames, ih, codeName?_append hm, List.append_assoc]

theorem codeNames_parts (hm : m.Parts) (b : List Sign) : codeNames (m :: b) = codeNames b := by
  cases m with
  | tag style => rfl
  | char c =>
    have hc : c ≠ ':' := by
      rintro rfl
      exact absurd (show isBlank ':' = true from hm) (by decide)
    rw [codeNames, if_neg hc, List.nil_append]

theorem codelessSigns_append (hm : m.Parts) :
    CodelessSigns screen (a ++ m :: b) ↔ CodelessSigns screen a ∧ CodelessSigns screen b := by
  unfold CodelessSigns
  rw [codeNames_append hm, codeNames_parts hm]
  exact List.forall_mem_append

/-- Codes do not go across blanks. -/
theorem codeless_append (hc : isBlank c = true) :
    Codeless screen (s ++ c :: t) ↔ Codeless screen s ∧ Codeless screen t := by
  unfold Codeless
  rw [List.map_append, List.map_cons]
  exact codelessSigns_append hc

theorem codeNames_subset_append (a b : List Sign) : ∀ name ∈ codeNames a, name ∈ codeNames (a ++ b) := by
  induction a with
  | nil => exact fun _ h => absurd h List.not_mem_nil
  | cons sign a ih =>
    cases sign with
    | tag style => exact ih
    | char c =>
      intro name hn
      rw [List.cons_append, codeNames, List.mem_append]
      rw [codeNames, List.mem_append] at hn
      refine hn.imp (fun hn => ?_) (ih name)
      split at hn
      · next hc =>
        rw [if_pos hc, Option.mem_toList, codeName?_append_of_some (Option.mem_toList.mp hn)]
      · cases hn

theorem Codeless.of_append_left (h : Codeless screen (s ++ t)) : Codeless screen s := by
  intro name hn
  refine h name ?_
  rw [List.map_append]
  exact codeNames_subset_append _ _ name hn

theorem Codeless.tail (h : Codeless screen (c :: s)) : Codeless screen s :=
  fun name hn => h name (List.mem_append_right _ hn)

theorem Codeless.drop (h : Codeless screen s) (n : Nat) : Codeless screen (s.drop n) := by
  induction n generalizing s with
  | zero => exact h
  | succ n ih =>
    cases s with
    | nil => exact h
    | cons c s => exact ih h.tail

theorem codeless_of_eq_nil (h : codeNames (s.map .char) = []) : Codeless screen s := by
  unfold Codeless CodelessSigns
  rw [h]
  exact List.forall_mem_nil _

theorem codeName?_append_of_notMem (h : ':' ∉ t) (a : List Sign) :
    codeName? (a ++ t.map .char) = codeName? a := by
  induction a with
  | nil =>
    induction t with
    | nil => rfl
    | cons c t ih =>
      obtain ⟨hc, ht⟩ := not_or.mp (mt List.mem_cons.mpr h)
      rw [List.nil_append] at ih ⊢
      rw [List.map_cons, codeName?, if_neg (Ne.symm hc), ih ht]
      exact ite_self none
  | cons sign a ih =>
    cases sign with
    | tag style => rfl
    | char c => rw [List.cons_append, codeName?, codeName?, ih]

/-- Text without colons does not matter behind other text. -/
theorem codeNames_append_of_notMem (h : ':' ∉ t) (a : List Sign) :
    codeNames (a ++ t.map .char) = codeNames a := by
  induction a with
  | nil =>
    induction t with
    | nil => rfl
    | cons c t ih =>
      obtain ⟨hc, ht⟩ := not_or.mp (mt List.mem_cons.mpr h)
      show codeNames (.char c :: t.map .char) = []
      rw [codeNames, if_neg (Ne.symm hc)]
      exact ih ht
  | cons sign a ih =>
    cases sign with
    | tag style => exact ih
    | char c => rw [List.cons_append, codeNames, codeNames, codeName?_append_of_notMem h, ih]

theorem Codeless.append_of_notMem (hs : Codeless screen s) (h : ':' ∉ t) : Codeless screen (s ++ t) := by
  unfold Codeless CodelessSigns
  rw [List.map_append, codeNames_append_of_notMem h]
  exact hs

theorem codeless_of_notMem (h : ':' ∉ s) : Codeless screen s :=
  Codeless.append_of_notMem (codeless_of_eq_nil (s := []) rfl) h

/-! ### Putting emoji in -/

theorem withEmoji_char (h : c ≠ ':') (s : List Sign) :
    withEmoji screen 0 (.char c :: s) = c :: withEmoji screen 0 s := by
  rw [withEmoji, if_neg h]

/-- Signs among which there is no code are left as they are. -/
theorem withEmoji_eq_letters (h : CodelessSigns screen signs) (covered : Nat) :
    withEmoji screen covered signs = letters (signs.drop covered) := by
  induction signs generalizing covered with
  | nil => cases covered <;> rfl
  | cons sign signs ih =>
    cases covered with
    | succ covered =>
      rw [withEmoji, List.drop_succ_cons]
      cases sign with
      | tag style => exact ih h covered
      | char c => exact ih (fun name hn => h name (List.mem_append_right _ hn)) covered
    | zero =>
      cases sign with
      | tag style => exact ih h 0
      | char c =>
        have hrest (covered : Nat) := ih (fun name hn => h name (List.mem_append_right _ hn)) covered
        rw [List.drop_zero, letters_char, withEmoji]
        by_cases hc : c = ':'
        · rw [if_pos hc]
          cases hname : codeName? signs with
          | none => exact congrArg _ (hrest 0)
          | some name =>
            -- the screen does not know the name, so it stays with its colons
            have hnone : emojiFor screen name = none := h name (by
              rw [codeNames, if_pos hc, hname]
              exact List.mem_append_left _ (List.mem_singleton_self name))
            dsimp only
            rw [hnone, hrest, hc]
            conv => rhs; rw [eq_of_codeName? hname, letters_append, letters_map_char, letters_char]
            simp
        · rw [if_neg hc]
          exact congrArg _ (hrest 0)

/-- What stands before a blank or the edge of a tag does not matter for what stands behind it. -/
theorem withEmoji_append (hm : m.Parts) (a b : List Sign) {covered : Nat} (h : covered ≤ a.length) :
    withEmoji screen covered (a ++ m :: b) = withEmoji screen covered a ++ withEmoji screen 0 (m :: b) := by
  induction a generalizing covered with
  | nil =>
    obtain rfl := Nat.le_zero.mp h
    rfl
  | cons sign a ih =>
    cases covered with
    | succ covered => exact ih (Nat.le_of_succ_le_succ h)
    | zero =>
      cases sign with
      | tag style => exact ih (Nat.zero_le _)
      | char c =>
        rw [List.cons_append, withEmoji, withEmoji, codeName?_append hm]
        split
        · next name hname =>
          -- the code ends before the edge
          have hlength : name.length + 1 ≤ a.length := by
            split at hname
            · exact length_of_codeName? hname
            · cases hname
          rw [ih hlength, List.append_assoc]
        · rw [ih (Nat.zero_le _)]
          rfl

end Preflight.Report

import Mathlib.Data.List.Infix
import Preflight.Gateway.Parser

/-!
# Texts with their placeholders replaced

`Placeholder` says what a placeholder for a variable looks like. A text falls apart into placeholders
and other characters in exactly one way in which a placeholder is taken wherever one begins (`Cut`,
`cut_textPieces`, `Cut.unique`). Rendering puts the values of the variables in the places of these
placeholders and keeps all else (`render_iff_cut`); the parts of a text do not depend on the values,
so no value is ever looked at again.
-/

namespace Preflight.Gateway

open Text

variable {name rest s t p : List Char} {c : Char} {pieces : List TextPiece}

/-- How a placeholder for a name is written. -/
inductive Placeholder (name : List Char) : List Char → Prop
  | mk {before between behind : List Char} : name ≠ [] → '\x22' ∉ name → between ≠ [] →
      (∀ c ∈ before ++ between ++ behind, isBlank c = true) →
      Placeholder name ([ '\x7b', '\x7b'] ++ before ++ ['e', 'n', 'v'] ++ between ++ [ '\x22'] ++ name ++
        [ '\x22'] ++ behind ++ [ '\x7d', '\x7d'])

/-- A text falls apart, from the left: a placeholder where one begins, else a single character. -/
inductive Cut : List Char → List TextPiece → Prop
  | nil : Cut [] []
  | placeholder {name p s : List Char} {pieces : List TextPiece} : Placeholder name p → Cut s pieces →
      Cut (p ++ s) (.variable name :: pieces)
  | char {c : Char} {s : List Char} {pieces : List TextPiece} :
      (∀ name p, Placeholder name p → ¬ p <+: c :: s) → Cut s pieces → Cut (c :: s) (.char c :: pieces)

def TextPiece.name? : TextPiece → Option String
  | .char _ => none
  | .variable name => some (String.ofList name)

def undefinedIn (env : Environment) (name : String) : Bool := (env.lookup name).isNone

/-- What stands for a part in the rendered text, nothing for an undefined variable. -/
def TextPiece.value (env : Environment) : TextPiece → SystemText
  | .char c => [.char c]
  | .variable name => (env.lookup (String.ofList name)).getD []

/-! ### One placeholder -/

theorem behind?_eq_some_iff {lead : List Char} : behind? lead s = some rest ↔ s = lead ++ rest := by
  induction lead generalizing s with
  | nil => simp [behind?]
  | cons c lead ih =>
    cases s with
    | nil => simp [behind?]
    | cons d s =>
      by_cases h : c = d
      · simp [behind?, h, ih]
      · simp [behind?, h, Ne.symm h]

theorem mem_takeWhile {q : Char → Bool} (h : c ∈ s.takeWhile q) : q c = true :=
  List.all_eq_true.1 List.all_takeWhile c h

theorem dropWhile_blanks {blanks : List Char} (h : ∀ c ∈ blanks, isBlank c = true)
    (hc : isBlank c = false) : (blanks ++ c :: s).dropWhile isBlank = c :: s := by
  rw [List.dropWhile_append_of_pos h, List.dropWhile_cons_of_neg (by simp [hc])]

theorem exists_blanks (h : s.dropWhile isBlank = t) :
    ∃ blanks, (∀ c ∈ blanks, isBlank c = true) ∧ s = blanks ++ t :=
  ⟨s.takeWhile isBlank, fun _ => mem_takeWhile, by rw [← h, List.takeWhile_append_dropWhile]⟩

theorem quoteless_iff {a b : List Char} :
    (s.takeWhile (· != '\x22') = a ∧ s.dropWhile (· != '\x22') = '\x22' :: b) ↔
      '\x22' ∉ a ∧ s = a ++ '\x22' :: b := by
  constructor
  · rintro ⟨rfl, hb⟩
    refine ⟨fun h => by simpa using mem_takeWhile h, ?_⟩
    rw [← hb, List.takeWhile_append_dropWhile]
  · rintro ⟨ha, rfl⟩
    have hall : ∀ c ∈ a, (c != '\x22') = true := by
      intro c hc
      simpa using ne_of_mem_of_not_mem hc ha
    simp [List.takeWhile_append_of_pos hall, List.dropWhile_append_of_pos hall]

theorem Placeholder.taken (h : Placeholder name p) (rest : List Char) :
    takePlaceholder? (p ++ rest) = some (name, rest) := by
  cases h with
  | @mk before between behind hne hq hb hall =>
    have hblank : (∀ c ∈ before, isBlank c = true) ∧ (∀ c ∈ between, isBlank c = true) ∧
        ∀ c ∈ behind, isBlank c = true := by
      simpa only [List.forall_mem_append, and_assoc] using hall
    obtain ⟨b, bs, rfl⟩ := List.exists_cons_of_ne_nil hb
    obtain ⟨htake, hdrop⟩ := quoteless_iff.2
      ⟨hq, (rfl : name ++ '\x22' :: (behind ++ '\x7d' :: '\x7d' :: rest) = _)⟩
    have hbrace := dropWhile_blanks (s := '\x7d' :: rest) hblank.2.2 (by decide : isBlank '\x7d' = false)
    have hquote := dropWhile_blanks
      (s := name ++ '\x22' :: (behind ++ '\x7d' :: '\x7d' :: rest)) hblank.2.1
      (by decide : isBlank '\x22' = false)
    simp only [List.append_assoc, List.cons_append, List.nil_append] at hquote ⊢
    have hmark := dropWhile_blanks (s := 'n' :: 'v' :: b :: (bs ++ '\x22' :: (name ++ '\x22' ::
      (behind ++ '\x7d' :: '\x7d' :: rest)))) hblank.1 (by decide : isBlank 'e' = false)
    have hempty : name.isEmpty = false := List.isEmpty_eq_false_iff.mpr hne
    simp only [takePlaceholder?, behind?, reduceIte, Option.pure_def, Option.bind_eq_bind,
      Option.bind_some, hmark, List.head?_cons, Option.map_some, hblank.2.1 b List.mem_cons_self,
      Option.getD_some, hquote, htake, hempty, Bool.false_eq_true, hdrop, hbrace]

/-- The scan takes exactly the placeholders that a text begins with. -/
theorem takePlaceholder?_eq_some_iff :
    takePlaceholder? s = some (name, rest) ↔ ∃ p, Placeholder name p ∧ s = p ++ rest := by
  refine ⟨fun h => ?_, ?_⟩
  · simp only [takePlaceholder?, Option.bind_eq_bind, Option.bind_eq_some_iff, behind?_eq_some_iff,
      Option.ite_none_left_eq_some, Option.ite_none_right_eq_some, Option.pure_def] at h
    obtain ⟨s₁, rfl, s₂, hs₂, hblank, s₃, hs₃, hne, s₄, hs₄, s₅, hs₅, h⟩ := h
    obtain ⟨rfl, rfl⟩ : s₃.takeWhile (· != '\x22') = name ∧ s₅ = rest := by simpa using h
    generalize hname : s₃.takeWhile (· != '\x22') = name at hne
    obtain ⟨before, hbefore, rfl⟩ := exists_blanks hs₂
    obtain ⟨between, hbetween, rfl⟩ := exists_blanks hs₃
    obtain ⟨hq, rfl⟩ := quoteless_iff.1 ⟨hname, hs₄⟩
    obtain ⟨behind, hbehind, rfl⟩ := exists_blanks hs₅
    have hb : between ≠ [] := by
      rintro rfl
      have hquote : isBlank '\x22' = true := hblank
      exact absurd hquote (by decide)
    refine ⟨_, .mk (by simpa using hne) hq hb (?_ : ∀ c ∈ before ++ between ++ behind, _), by simp⟩
    simpa only [List.forall_mem_append, and_assoc] using ⟨hbefore, hbetween, hbehind⟩
  · rintro ⟨p, hp, rfl⟩
    exact hp.taken rest

theorem Placeholder.ne_nil (h : Placeholder name p) : p ≠ [] := by
  obtain ⟨-, -, -, -⟩ := h
  exact List.cons_ne_nil _ _

/-! ### The parts of a text -/

theorem textPieces_covered (covered : Nat) (s : List Char) :
    textPieces covered s = textPieces 0 (s.drop covered) := by
  induction s generalizing covered with
  | nil => cases covered <;> simp [textPieces]
  | cons c s ih =>
    cases covered with
    | zero => rfl
    | succ covered => rw [textPieces, ih, List.drop_succ_cons]

theorem textPieces_placeholder (h : Placeholder name p) (s : List Char) :
    textPieces 0 (p ++ s) = .variable name :: textPieces 0 s := by
  obtain ⟨c, q, rfl⟩ := List.exists_cons_of_ne_nil h.ne_nil
  have ht : takePlaceholder? (c :: (q ++ s)) = some (name, s) := h.taken s
  have hlen : (q ++ s).length - s.length = q.length := by simp
  rw [List.cons_append, textPieces, ht]
  simp only [hlen, textPieces_covered q.length, List.drop_left]

theorem textPieces_char (h : ∀ name p, Placeholder name p → ¬ p <+: c :: s) :
    textPieces 0 (c :: s) = .char c :: textPieces 0 s := by
  have ht : takePlaceholder? (c :: s) = none := by
    rw [Option.eq_none_iff_forall_ne_some]
    rintro ⟨name, rest⟩ ht
    obtain ⟨p, hp, he⟩ := takePlaceholder?_eq_some_iff.1 ht
    exact h name p hp ⟨rest, he.symm⟩
  rw [textPieces, ht]

theorem cut_iff : Cut s pieces ↔ pieces = textPieces 0 s := by
  constructor
  · intro h
    induction h with
    | nil => simp [textPieces]
    | placeholder hp _ ih => rw [textPieces_placeholder hp, ih]
    | char hno _ ih => rw [textPieces_char hno, ih]
  · rintro rfl
    induction hn : s.length using Nat.strong_induction_on generalizing s with
    | _ n ih =>
      subst hn
      by_cases hp : ∃ name p, Placeholder name p ∧ p <+: s
      · obtain ⟨name, p, hp, rest, rfl⟩ := hp
        rw [textPieces_placeholder hp]
        have hlt : rest.length < (p ++ rest).length := by
          have := List.length_pos_of_ne_nil hp.ne_nil
          rw [List.length_append]
          omega
        exact .placeholder hp (ih _ hlt rfl)
      · cases s with
        | nil => simpa [textPieces] using Cut.nil
        | cons c s =>
          have hno : ∀ name p, Placeholder name p → ¬ p <+: c :: s :=
            fun name p h hpre => hp ⟨name, p, h, hpre⟩
          rw [textPieces_char hno]
          exact .char hno (ih _ (by simp) rfl)

theorem cut_of_plain (h : ∀ name p, Placeholder name p → ¬ p <:+: s) : Cut s (s.map .char) := by
  induction s with
  | nil => exact .nil
  | cons c s ih =>
    refine .char (fun name p hp hpre => h name p hp hpre.isInfix) (ih fun name p hp hin => ?_)
    exact h name p hp (hin.trans (List.suffix_cons c s).isInfix)

/-! ### Rendering -/

/-- Parts are rendered to what stands for each of them, unless a variable among them is undefined. -/
theorem renderPieces_eq (env : Environment) (pieces : List TextPiece) :
    renderPieces env pieces =
      match (pieces.filterMap TextPiece.name?).find? (undefinedIn env) with
      | some name => .error name
      | none => .ok (pieces.flatMap (TextPiece.value env)) := by
  induction pieces with
  | nil => rfl
  | cons piece pieces ih =>
    rcases piece with c | name
    · rw [renderPieces, ih, List.filterMap_cons_none rfl, List.flatMap_cons]
      cases (pieces.filterMap TextPiece.name?).find? (undefinedIn env) <;> rfl
    · have hn : (TextPiece.variable name).name? = some (String.ofList name) := rfl
      rw [renderPieces, ih, List.filterMap_cons_some hn, List.flatMap_cons, List.find?_cons]
      cases hl : env.lookup (String.ofList name) with
      | none => simp [TextPiece.rendered, undefinedIn, hl, bind, Except.bind]
      | some value =>
        have hr : (TextPiece.variable name).rendered env = .ok value := by
          simp [TextPiece.rendered, hl]
        have hv : (TextPiece.variable name).value env = value := by
          simp [TextPiece.value, hl]
        rw [hr, hv]
        simp only [undefinedIn, hl, Option.isNone_some]
        cases (pieces.filterMap TextPiece.name?).find? (undefinedIn env) <;> rfl

/-- A text falls apart in exactly one way, whatever the values of its variables are. Rendered, it is
the text with a value for each placeholder and all else as it was; the first variable without a value
makes it an error, which is the one that parsing the text ends with. A text without placeholders stays
as it is. -/
theorem render_iff_cut (s : List Char) :
    ∃ pieces, (∀ others, Cut s others ↔ others = pieces) ∧
      ∀ env : Environment,
        (∀ t, renderText env s = .ok t ↔
          (∀ name ∈ pieces.filterMap TextPiece.name?, undefinedIn env name = false) ∧
            t = pieces.flatMap (TextPiece.value env)) ∧
        (∀ name, renderText env s = .error name ↔
          (pieces.filterMap TextPiece.name?).find? (undefinedIn env) = some name) ∧
        (∀ name path, renderText env s = .error name →
          parseText env path s = .error (.fault (.undefinedVariable name))) ∧
        ((∀ name p, Placeholder name p → ¬ p <:+: s) → renderText env s = .ok (systemText s)) := by
  refine ⟨textPieces 0 s, fun others => cut_iff, fun env => ?_⟩
  have hr : renderText env s = _ := renderPieces_eq env (textPieces 0 s)
  refine ⟨fun t => ?_, fun name => ?_, fun name path he => by rw [parseText, he], fun hplain => ?_⟩
  · rw [hr]
    cases hf : ((textPieces 0 s).filterMap TextPiece.name?).find? (undefinedIn env) with
    | none =>
      have hdefined : ∀ name ∈ (textPieces 0 s).filterMap TextPiece.name?, undefinedIn env name = false :=
        fun name hm => eq_false_of_ne_true (List.find?_eq_none.1 hf name hm)
      exact ⟨fun h => ⟨hdefined, (Except.ok.inj h).symm⟩, fun h => congrArg _ h.2.symm⟩
    | some name =>
      refine ⟨nofun, fun h => ?_⟩
      have hu := h.1 name (List.mem_of_find?_eq_some hf)
      exact absurd (List.find?_some hf) (by simp [hu])
  · rw [hr]
    cases ((textPieces 0 s).filterMap TextPiece.name?).find? (undefinedIn env) <;> simp
  · rw [hr, ← cut_iff.1 (cut_of_plain hplain)]
    have hn : (s.map TextPiece.char).filterMap TextPiece.name? = [] := by
      rw [List.filterMap_map]
      exact List.filterMap_eq_nil_iff.2 fun _ _ => rfl
    have hv : (s.map TextPiece.char).flatMap (TextPiece.value env) = systemText s := by
      rw [List.flatMap_map]
      exact (List.map_eq_flatMap ..).symm
    rw [hn, hv]
    rfl

/-- A brace too many stands for itself, and a value that looks like a placeholder is left as it is. -/
example : (renderText [("A", systemText "\x7b\x7b env \"B\" \x7d\x7d".toList)]
      "\x7b\x7b\x7benv \"A\"\x7d\x7d\x7d".toList).toOption =
    some (systemText "\x7b\x7b\x7b env \"B\" \x7d\x7d\x7d".toList) := by
  decide +kernel

end Preflight.Gateway

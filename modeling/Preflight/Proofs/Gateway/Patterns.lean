import Preflight.Proofs.Gateway.Reading
import Preflight.Proofs.Pattern.Remainders
import Preflight.Schema.Assertion

/-!
# The patterns of the bundled schema

What the two patterns of the bundled schema are found in, told without patterns: a path begins with a
slash (`patternFound_path`), a duration is a number in decimal digits with a unit, and a line break may
follow (`patternFound_duration`).
-/

namespace Preflight.Gateway

open Pattern Schema

def durationUnits : List (List Char) :=
  [['n', 's'], ['u', 's'], ['µ', 's'], ['m', 's'], ['s'], ['m'], ['h']]

/-- Digits and a unit; a line break may follow. -/
def isDurationText (s : List Char) : Bool :=
  !(s.takeWhile Char.isDigit).isEmpty && durationUnits.any fun unit =>
    s.dropWhile Char.isDigit == unit || s.dropWhile Char.isDigit == unit ++ ['\n']

def isPathText (s : List Char) : Bool := s.head? == some '/'

/-! ### Words -/

def literal (c : Char) : Regex := .set false [.range c.toNat c.toNat] false false

def word : List Char → Regex
  | [] => .empty
  | [c] => literal c
  | c :: cs => .seq (literal c) (word cs)

def choice : List (List Char) → Regex
  | [] => .empty
  | [w] => word w
  | w :: ws => .alt (word w) (choice ws)

variable {r : Regex} {rel rel' : List Char → List Char → Prop}

theorem accepts_digit : Accepts [.range 48 57] false Char.isDigit := by
  intro c
  simp only [List.any_cons, List.any_nil, Bool.or_false, Member.holds, Bool.false_eq_true, if_false,
    Char.isDigit, ge_iff_le, UInt32.le_iff_toNat_le]
  rfl

theorem accepts_literal (c : Char) : Accepts [.range c.toNat c.toNat] false (· == c) := by
  intro d
  rw [Bool.eq_iff_iff, beq_iff_eq]
  simp only [List.any_cons, List.any_nil, Bool.or_false, Member.holds, Bool.false_eq_true, if_false,
    Bool.and_eq_true, decide_eq_true_eq]
  constructor
  · rintro ⟨hl, hu⟩
    exact Char.toNat_inj.mp (Nat.le_antisymm hu hl)
  · rintro rfl
    exact ⟨Nat.le_refl _, Nat.le_refl _⟩

theorem leaves_literal (c : Char) : Leaves (literal c) fun s t => s = c :: t :=
  Leaves.congr (leaves_set (accepts_literal c)) fun s t => by simp

theorem leaves_empty : Leaves .empty fun s t => s = t := by
  intro k p hk s
  exact (hk s).trans (by simp)

theorem leaves_word (w : List Char) : Leaves (word w) fun s t => s = w ++ t := by
  induction w with
  | nil => exact leaves_empty
  | cons c cs ih =>
    cases cs with
    | nil => exact leaves_literal c
    | cons d cs => exact Leaves.congr (leaves_seq (leaves_literal c) ih) fun s t => by simp

theorem leaves_choice {ws : List (List Char)} (h : ws ≠ []) :
    Leaves (choice ws) fun s t => ∃ w ∈ ws, s = w ++ t := by
  induction ws with
  | nil => exact absurd rfl h
  | cons w ws ih =>
    cases ws with
    | nil => exact Leaves.congr (leaves_word w) fun s t => by simp
    | cons w' ws =>
      exact Leaves.congr (leaves_alt (leaves_word w) (ih (List.cons_ne_nil _ _))) fun s t => by simp

/-! ### The two patterns -/

def pathRegex : Regex := .seq (.anchor .textStart false) (literal '/')

def durationRegex : Regex :=
  .seq (.anchor .textStart false)
    (.seq (.repeated 1 none .greedy (.set false [.range 48 57] false false))
      (.seq (.group 1 (choice durationUnits)) (.anchor .lastLineEnd false)))

theorem compilePattern_path : compilePattern "^/" = .ok pathRegex :=
  eq_ok_of_toOption (by decide +kernel)

theorem compilePattern_duration :
    compilePattern "^[0-9]+(ns|us|µs|ms|s|m|h)$" = .ok durationRegex :=
  eq_ok_of_toOption (by decide +kernel)

theorem patternFound_of_search {pattern s : String} {regex : Regex} {found : Bool}
    (hc : compilePattern pattern = .ok regex) (hs : regex.search s = found) :
    patternFound pattern s = .ok found := by
  unfold patternFound
  rw [hc, ← hs]
  rfl

theorem patternFound_path (s : String) : patternFound "^/" s = .ok (isPathText s.toList) := by
  refine patternFound_of_search compilePattern_path ?_
  rw [Bool.eq_iff_iff]
  refine (search_textStart (leaves_literal '/') s).trans ?_
  unfold isPathText
  cases s.toList with
  | nil => simp
  | cons c rest => simp

/-- No unit begins with a digit, so the digits of a duration end where its unit begins. -/
theorem span_duration {digits unit e : List Char} (hd : ∀ c ∈ digits, c.isDigit = true)
    (hu : unit ∈ durationUnits) :
    (digits ++ (unit ++ e)).takeWhile Char.isDigit = digits ∧
      (digits ++ (unit ++ e)).dropWhile Char.isDigit = unit ++ e := by
  have hhead : ∀ unit ∈ durationUnits, unit ≠ [] ∧ unit.all (fun c => !c.isDigit) = true := by decide
  obtain ⟨hne, hall⟩ := hhead unit hu
  obtain ⟨c, cs, rfl⟩ := List.exists_cons_of_ne_nil hne
  have hc : c.isDigit = false := by simpa using List.all_eq_true.mp hall c List.mem_cons_self
  rw [List.takeWhile_append_of_pos hd, List.dropWhile_append_of_pos hd, List.cons_append,
    List.takeWhile_cons_of_neg (by simp [hc]), List.dropWhile_cons_of_neg (by simp [hc]),
    List.append_nil]
  exact ⟨rfl, rfl⟩

theorem isDurationText_iff (s : List Char) : isDurationText s = true ↔
    ∃ digits unit e, digits ≠ [] ∧ (∀ c ∈ digits, c.isDigit = true) ∧ unit ∈ durationUnits ∧
      (e = [] ∨ e = ['\n']) ∧ s = digits ++ (unit ++ e) := by
  unfold isDurationText
  simp only [Bool.and_eq_true, Bool.not_eq_true', List.isEmpty_eq_false_iff, List.any_eq_true,
    Bool.or_eq_true, beq_iff_eq]
  constructor
  · rintro ⟨hne, unit, hu, he⟩
    have hd : ∀ c ∈ s.takeWhile Char.isDigit, c.isDigit = true :=
      List.all_eq_true.mp List.all_takeWhile
    have hs := (List.takeWhile_append_dropWhile (p := Char.isDigit) (l := s)).symm
    rcases he with he | he
    · exact ⟨_, unit, [], hne, hd, hu, .inl rfl, by rwa [List.append_nil, ← he]⟩
    · exact ⟨_, unit, ['\n'], hne, hd, hu, .inr rfl, by rwa [← he]⟩
  · rintro ⟨digits, unit, e, hne, hd, hu, he, rfl⟩
    obtain ⟨ht, hr⟩ := span_duration hd hu (e := e)
    rw [ht, hr]
    refine ⟨hne, unit, hu, ?_⟩
    rcases he with rfl | rfl
    · exact .inl (List.append_nil unit)
    · exact .inr rfl

theorem patternFound_duration (s : String) :
    patternFound "^[0-9]+(ns|us|µs|ms|s|m|h)$" s = .ok (isDurationText s.toList) := by
  refine patternFound_of_search compilePattern_duration ?_
  rw [Bool.eq_iff_iff, isDurationText_iff]
  refine (search_textStart (leaves_seq (leaves_oneOrMore accepts_digit)
    (leaves_seq (leaves_group 1 (leaves_choice (by decide))) leaves_lastLineEnd)) s).trans ?_
  constructor
  · rintro ⟨_, _, ⟨digits, hne, hd, hs⟩, e, ⟨unit, hu, rfl⟩, he, rfl⟩
    exact ⟨digits, unit, _, hne, hd, hu, he, hs⟩
  · rintro ⟨digits, unit, e, hne, hd, hu, he, hs⟩
    exact ⟨e, _, ⟨digits, hne, hd, hs⟩, e, ⟨unit, hu, rfl⟩, he, rfl⟩

end Preflight.Gateway

import Preflight.Proofs.Results
import Preflight.Schema.Violation

/-!
# Reading pointers

A pointer is read from a text: its pieces between the slashes are tokens, in which `~1` stands for a
slash and `~0` for a tilde (RFC 6901). The pointer of some steps is read as these steps
(`tokens_pointer`). From a value, tokens lead to the values below it (`Reaches`).
-/

namespace Preflight.Schema

open Json Text

/-- A text with each tilde before a digit put back, together with it, to the character they stand for. -/
def restore (digit original : Char) : List Char → List Char
  | [] => []
  | [c] => [c]
  | c :: d :: s =>
    if c = '~' ∧ d = digit then original :: restore digit original s
    else c :: restore digit original (d :: s)

/-- A token with its escapes undone, those of slashes first. -/
def unescapeToken (s : List Char) : List Char := restore '0' '~' (restore '1' '/' s)

/-- The tokens of a pointer; none for a text that neither is empty nor begins with a slash. -/
def tokens? (pointer : String) : Option (List String) :=
  match pointer.toList with
  | [] => some []
  | '/' :: s => some ((split '/' s).map fun token => String.ofList (unescapeToken token))
  | _ => none

/-- From a value, tokens lead to a value below it: a name to a member of an object, the decimal form of
an index to an item of an array. Where each name is there once, they lead to one value only. -/
inductive Reaches : Value → List String → Value → Prop
  | here (v : Value) : Reaches v [] v
  | member {members : Members} {name : String} {member found : Value} {tokens : List String} :
      (name, member) ∈ members → Reaches member tokens found →
      Reaches (.object members) (name :: tokens) found
  | item {items : List Value} {i : Nat} {item found : Value} {tokens : List String} :
      items[i]? = some item → Reaches item tokens found →
      Reaches (.array items) (toString i :: tokens) found

/-! ### Escapes -/

variable {digit original : Char}

theorem restore_of_ne {c : Char} (h : c ≠ '~') (s : List Char) :
    restore digit original (c :: s) = c :: restore digit original s := by
  cases s with
  | nil => rfl
  | cons d s => rw [restore, if_neg fun hc => h hc.1]

theorem restore_tilde (s : List Char) :
    restore digit original ('~' :: digit :: s) = original :: restore digit original s := by
  rw [restore, if_pos ⟨rfl, rfl⟩]

theorem restore_tilde_of_ne {d : Char} (h : d ≠ digit) (s : List Char) :
    restore digit original ('~' :: d :: s) = '~' :: restore digit original (d :: s) := by
  rw [restore, if_neg fun hc => h hc.2]

theorem unescapeToken_escapeStep (s : List Char) : unescapeToken (escapeStep s) = s := by
  unfold unescapeToken
  induction s with
  | nil => rfl
  | cons c s ih =>
    by_cases ht : c = '~'
    · subst ht
      have hzero : restore '1' '/' ('0' :: escapeStep s) = '0' :: restore '1' '/' (escapeStep s) :=
        restore_of_ne (by decide) _
      rw [escapeStep, restore_tilde_of_ne (by decide), hzero, restore_tilde, ih]
    · by_cases hs : c = '/'
      · subst hs
        rw [escapeStep, restore_tilde, restore_of_ne (by decide), ih]
      · have he : escapeStep (c :: s) = c :: escapeStep s := by
          rw [escapeStep]
          · exact ht
          · exact hs
        rw [he, restore_of_ne ht, restore_of_ne ht, ih]

theorem slash_notMem_escapeStep (s : List Char) : '/' ∉ escapeStep s := by
  fun_induction escapeStep s with
  | case1 => simp
  | case2 s ih => simp [ih]
  | case3 s ih => simp [ih]
  | case4 c s _ hs ih =>
    have hc : c ≠ '/' := fun h => hs h
    simp [ih, hc.symm]

/-! ### Tokens -/

theorem split_pointerChars (s : List Char) (steps : List Step) :
    split '/' (escapeStep s ++ pointerChars steps) =
      escapeStep s :: steps.map fun step => escapeStep step.text.toList := by
  induction steps generalizing s with
  | nil => rw [pointerChars, List.flatMap_nil, List.append_nil, split_of_notMem (slash_notMem_escapeStep s),
      List.map_nil]
  | cons step steps ih =>
    have hc : pointerChars (step :: steps) =
        '/' :: (escapeStep step.text.toList ++ pointerChars steps) := rfl
    rw [hc, split_append_cons (slash_notMem_escapeStep s), ih, List.map_cons]

/-- A pointer is read as the steps it was made of. -/
theorem tokens_pointer (steps : List Step) : tokens? (pointer steps) = some (steps.map Step.text) := by
  unfold tokens? pointer
  rw [String.toList_ofList]
  cases steps with
  | nil => rfl
  | cons step steps =>
    have hc : pointerChars (step :: steps) =
        '/' :: (escapeStep step.text.toList ++ pointerChars steps) := rfl
    have ht : ∀ step : Step, String.ofList (unescapeToken (escapeStep step.text.toList)) = step.text :=
      fun step => by rw [unescapeToken_escapeStep, String.ofList_toList]
    rw [hc]
    show some ((split '/' (escapeStep step.text.toList ++ pointerChars steps)).map _) = _
    rw [split_pointerChars, List.map_cons, List.map_map, ht, List.map_cons]
    congr 2
    exact List.map_congr_left fun step _ => ht step

/-- A name with a tilde, a slash and a digit. -/
example : tokens? (pointer [.name "a~1/b", .index 10]) = some ["a~1/b", "10"] := by decide +kernel

/-! ### What tokens lead to -/

theorem Reaches.trans {u v w : Value} {s t : List String} (h : Reaches u s v) (h' : Reaches v t w) :
    Reaches u (s ++ t) w := by
  induction h with
  | here v => exact h'
  | member hm _ ih => exact .member hm (ih h')
  | item hi _ ih => exact .item hi (ih h')

theorem Reaches.of_string {s : String} {tokens : List String} {found : Value}
    (h : Reaches (.string s) tokens found) : tokens = [] ∧ found = .string s := by
  cases h with
  | here => exact ⟨rfl, rfl⟩

theorem mem_of_get? {members : Members} {name : String} {member : Value}
    (h : Members.get? members name = some member) : (name, member) ∈ members := by
  unfold Members.get? at h
  rw [List.lookup_eq_some_iff] at h
  obtain ⟨before, after, rfl, -⟩ := h
  simp

theorem Reaches.of_get? {members : Members} {name : String} {member : Value}
    (h : Members.get? members name = some member) : Reaches (.object members) [name] member :=
  .member (mem_of_get? h) (.here member)

end Preflight.Schema

import Preflight.Proofs.Report.Crossing

/-!
# What is shown of escaped text

Escaped text is shown with all its tags, and with every other character but backslashes (`ShownAs`), as
long as no tag goes on behind it (`exists_shownAs_escapeChars`). So of a text without backslashes nothing
is lost (`ShownAs.letters_eq`).
-/

namespace Preflight.Report

open Text

def backslashes (n : Nat) : List Sign := (List.replicate n '\\').map .char

/-- How parts are shown if none of them is a tag that counts: each tag with all the backslashes before it,
each character, but in place of a backslash that stands before no tag any number of them. -/
inductive ShownAs : List MarkupPiece → List Sign → Prop
  | nil : ShownAs [] []
  | tag {p : List MarkupPiece} {shown : List Sign} (n : Nat) (inner : List Char) (h : ShownAs p shown) :
      ShownAs (.tag n inner :: p) (plainTag n inner ++ shown)
  | char {p : List MarkupPiece} {shown : List Sign} {c : Char} (hc : c ≠ '\\') (h : ShownAs p shown) :
      ShownAs (.char c :: p) (.char c :: shown)
  | backslash {p : List MarkupPiece} {shown : List Sign} (n : Nat) (h : ShownAs p shown) :
      ShownAs (.char '\\' :: p) (backslashes n ++ shown)

variable {opened : List (List Char)} {c : Char} {s t : List Char} {shown more : List Sign}
  {p q : List MarkupPiece}

@[simp] theorem backslashes_zero : backslashes 0 = [] := rfl

theorem backslashes_succ (n : Nat) : backslashes (n + 1) = .char '\\' :: backslashes n := rfl

theorem ShownAs.append (hp : ShownAs p shown) (hq : ShownAs q more) :
    ShownAs (p ++ q) (shown ++ more) := by
  induction hp with
  | nil => exact hq
  | tag n inner _ ih =>
    rw [List.append_assoc]
    exact .tag n inner ih
  | char hc _ ih => exact .char hc ih
  | backslash n _ ih =>
    rw [List.append_assoc]
    exact .backslash n ih

theorem shownAs_backslashes {k n : Nat} (h : k = 0 → n = 0) :
    ShownAs (List.replicate k (.char '\\')) (backslashes n) := by
  have hnone : ∀ k, ShownAs (List.replicate k (.char '\\')) [] := by
    intro k
    induction k with
    | zero => exact .nil
    | succ k ih => exact .backslash 0 ih
  cases k with
  | zero =>
    rw [h rfl]
    exact .nil
  | succ k =>
    have hs := ShownAs.backslash n (hnone k)
    rwa [List.append_nil] at hs

theorem ShownAs.letters_eq_text (h : ShownAs p shown) (hs : '\\' ∉ p.flatMap MarkupPiece.text) :
    letters shown = p.flatMap MarkupPiece.text := by
  induction h with
  | nil => rfl
  | tag n inner _ ih =>
    rw [List.flatMap_cons] at hs ⊢
    rw [letters_append, letters_plainTag, ih fun hm => hs (List.mem_append_right _ hm)]
  | char hc _ ih =>
    rw [List.flatMap_cons] at hs ⊢
    rw [letters_char, ih fun hm => hs (List.mem_append_right _ hm)]
    rfl
  | backslash n _ ih => exact absurd (List.mem_append_left _ (List.mem_singleton_self _)) hs

theorem ShownAs.letters_eq (h : ShownAs (markupPieces s) shown) (hs : '\\' ∉ s) : letters shown = s := by
  have htext := text_pieces s
  rw [h.letters_eq_text (by rwa [htext]), htext]

/-! ### Backslashes before characters -/

theorem shown?_backslashes_char (k : Nat) (hc : c ≠ '\\') :
    shown? opened (List.replicate k (.char '\\') ++ .char c :: p) = (shown? opened p).map
      (backslashes (if c = '[' then k - 1 else k) ++ .char c :: ·) := by
  induction k with
  | zero => simp [shown?_char hc]
  | succ k ih =>
    rw [List.replicate_succ, List.cons_append]
    cases k with
    | zero =>
      by_cases hb : c = '['
      · simp [hb, shown?_backslash_bracket]
      · rw [List.replicate_zero, List.nil_append, shown?_backslash (by simpa using hb), shown?_char hc]
        simp [hb, Function.comp_def, backslashes_succ]
    | succ k =>
      rw [shown?_backslash (by simp [List.replicate_succ]), ih, Option.map_map]
      congr 1
      funext r
      by_cases hb : c = '[' <;> simp [hb, backslashes_succ]

theorem shown?_backslashes (k : Nat) :
    shown? opened (List.replicate k (.char '\\')) = some (backslashes k) := by
  induction k with
  | zero => rfl
  | succ k ih =>
    rw [List.replicate_succ, shown?_backslash (by cases k <;> simp [List.replicate_succ]), ih]
    rfl

/-! ### Escaped text -/

/-- The parts that a scan finds are shown, once they are guarded, whatever stands behind them. -/
theorem Scanned.exists_shownAs {k n : Nat} (h : Scanned k s p n) : ∃ shown, ShownAs p shown ∧
    ∀ opened q, shown? opened (p.map MarkupPiece.guarded ++ q) = (shown? opened q).map (shown ++ ·) := by
  induction h with
  | done => exact ⟨[], .nil, fun opened q => by simp⟩
  | backslash _ ih => exact ih
  | @plain k n c s p hb _ _ ih =>
    obtain ⟨shown, hs, ih⟩ := ih
    refine ⟨backslashes (if c = '[' then k - 1 else k) ++ .char c :: shown, ?_, fun opened q => ?_⟩
    · refine (shownAs_backslashes fun hk => ?_).append (.char hb hs)
      rw [hk, Nat.zero_sub, ite_self]
    · rw [List.map_append, map_guarded_replicate, List.append_assoc]
      show shown? opened (_ ++ .char c :: (p.map MarkupPiece.guarded ++ q)) = _
      rw [shown?_backslashes_char k hb, ih, Option.map_map]
      simp [Function.comp_def]
  | @tag k n s inner p _ _ ih =>
    obtain ⟨shown, hs, ih⟩ := ih
    refine ⟨plainTag k inner ++ shown, .tag k inner hs, fun opened q => ?_⟩
    show shown? opened (.tag (2 * k + 1) inner :: (p.map MarkupPiece.guarded ++ q)) = _
    have hhalf : (2 * k + 1) / 2 = k := by omega
    rw [shown?_odd (by omega), hhalf, ih, Option.map_map]
    simp [Function.comp_def]

/-- Escaped text is shown if what follows is, some of the backslashes at its end before the rest. -/
theorem exists_shownAs_escapeChars {rest : Nat → List Sign} (ha : Apart s t)
    (ht : ∀ n, ∃ m ≤ n, shown? opened (scanMarkup 0 n t) = some (backslashes m ++ rest n)) :
    ∃ shown, ShownAs (markupPieces s) shown ∧ shown? opened (markupPieces (escapeChars s ++ t)) =
      some (shown ++ rest (endBackslashes s + addedBackslashes s)) := by
  obtain ⟨pieces, hscan, hpieces⟩ := exists_scan_escapeChars ha
  obtain ⟨shown, hshown, h⟩ := hscan.exists_shownAs
  obtain ⟨m, hm, ht⟩ := ht (endBackslashes s + addedBackslashes s)
  refine ⟨shown ++ backslashes m, ?_, ?_⟩
  · rw [markupPieces, hscan.scan_eq]
    refine hshown.append (shownAs_backslashes fun hs => ?_)
    rw [hs, addedBackslashes_eq_zero hs] at hm
    exact Nat.le_zero.mp hm
  · rw [hpieces, h, ht, List.append_assoc]
    rfl

end Preflight.Report

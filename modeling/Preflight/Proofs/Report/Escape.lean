import Preflight.Proofs.Report.Scanning
import Preflight.Report.Console

/-!
# Escaped text holds no tags

The parts of an escaped text hold no tag that counts (`inert_markupPieces`), and a text without brackets and
backslashes is the same in escaped form (`escapeChars_tagless`).
-/

namespace Preflight.Report

open Text

/-! ### The parts of escaped text -/

/-- No part is a tag that counts. -/
def Inert (pieces : List MarkupPiece) : Prop :=
  ∀ piece ∈ pieces, ∀ n inner, piece = .tag n inner → n % 2 = 1

theorem inert_map_guarded (pieces : List MarkupPiece) :
    Inert (pieces.map MarkupPiece.guarded) := by
  intro piece hm n inner he
  obtain ⟨original, -, rfl⟩ := List.mem_map.mp hm
  cases original with
  | char c => cases he
  | tag n' inner' =>
    cases he
    omega

theorem inert_map_char (s : List Char) : Inert (s.map .char) := by
  intro piece hm n inner he
  obtain ⟨c, -, rfl⟩ := List.mem_map.mp hm
  cases he

theorem inert_append {p q : List MarkupPiece} (hp : Inert p) (hq : Inert q) : Inert (p ++ q) := by
  intro piece hm
  rcases List.mem_append.mp hm with hm | hm
  · exact hp piece hm
  · exact hq piece hm

theorem exists_bracketless_tail (s : List Char) {t : List Char} (ht : Bracketless t) :
    ∃ t', Bracketless t' ∧ escapeChars s ++ t = escapedFrom 0 s ++ t' := by
  unfold escapeChars
  show ∃ t', _ ∧ (if endsInLoneBackslash (escapedFrom 0 s) then _ else _) ++ t = _
  split
  · refine ⟨'\\' :: t, List.forall_mem_cons.mpr ⟨by decide, ht⟩, ?_⟩
    rw [List.append_assoc]
    rfl
  · exact ⟨t, ht, rfl⟩

theorem inert_markupPieces (s : List Char) {t : List Char} (ht : Bracketless t) :
    Inert (markupPieces (escapeChars s ++ t)) := by
  obtain ⟨t', ht', he⟩ := exists_bracketless_tail s ht
  rw [he, markupPieces, scanMarkup_escapedFrom ht']
  exact inert_append (inert_map_guarded _) (inert_map_char t')

theorem inert_escapeChars (s : List Char) : Inert (markupPieces (escapeChars s)) := by
  have h := inert_markupPieces s (List.forall_mem_nil _ : Bracketless [])
  rwa [List.append_nil] at h

/-! ### Text without tags -/

/-- A text that is the same in escaped form. -/
def Tagless (s : List Char) : Prop := ∀ c ∈ s, c ≠ '[' ∧ c ≠ '\\'

instance (s : List Char) : Decidable (Tagless s) := List.decidableBAll _ s

theorem scanMarkup_tagless {p : List Char} (h : Tagless p) (s : List Char) :
    scanMarkup 0 0 (p ++ s) = p.map .char ++ scanMarkup 0 0 s := by
  induction p with
  | nil => rfl
  | cons c p ih =>
    obtain ⟨hc, hp⟩ := List.forall_mem_cons.mp h
    rw [List.cons_append, scanMarkup_plain hc.2 (fun he => absurd he hc.1), ih hp]
    rfl

theorem escapeChars_tagless {s : List Char} (h : Tagless s) : escapeChars s = s := by
  have hp : markupPieces s = s.map .char := by
    have := scanMarkup_tagless h []
    rwa [List.append_nil, scanMarkup, List.replicate_zero, List.append_nil] at this
  have he : (s.map MarkupPiece.char).flatMap MarkupPiece.escaped = s := by
    rw [List.flatMap_map]
    exact List.flatMap_singleton' s
  have hl : endsInLoneBackslash s = false := by
    unfold endsInLoneBackslash
    split
    · rfl
    · next r heq =>
      have hm : '\\' ∈ s := by
        rw [← List.mem_reverse, heq]
        exact List.mem_cons_self
      exact absurd rfl (h _ hm).2
    · rfl
  unfold escapeChars
  rw [hp, he]
  dsimp only
  rw [hl]
  rfl

theorem markupPieces_red {p tail : List Char} (hp : Tagless p) :
    markupPieces ("[red]".toList ++ (p ++ ("[/red]".toList ++ tail))) =
      .tag 0 "red".toList :: (p.map .char ++ .tag 0 "/red".toList :: markupPieces tail) := by
  show scanMarkup 0 0 ('[' :: ("red]".toList ++ (p ++ ("[/red]".toList ++ tail)))) = _
  rw [scanMarkup_tag (show tagInner? _ = some "red".toList from rfl)]
  show _ :: scanMarkup 0 0 (p ++ '[' :: ("/red]".toList ++ tail)) = _
  rw [scanMarkup_tagless hp, scanMarkup_tag (show tagInner? _ = some "/red".toList from rfl)]
  rfl

end Preflight.Report

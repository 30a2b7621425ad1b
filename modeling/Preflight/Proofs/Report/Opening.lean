import Preflight.Proofs.Report.Emoji
import Preflight.Proofs.Report.Escape
import Preflight.Proofs.Report.Levels

/-!
# How the lines of a report begin

A text that begins with a character which is shown wherever it stands (`Solid`) is printed with that
character at its head: as a text (`begins_text`), as the headline of an error (`begins_error`) and, if
there is a cell for it, as the lead of a dump (`begins_dump`). So these can be told from each other.
-/

namespace Preflight.Report

open Gateway Text

def Begins (c : Char) (s : List Char) : Prop := ∃ t, s = c :: t

/-- A character that is shown as it is, wherever it stands. -/
structure Solid (c : Char) : Prop where
  kept : isDropped c = false
  nonblank : isBlank c = false
  ne_bracket : c ≠ '['
  ne_backslash : c ≠ '\\'
  ne_colon : c ≠ ':'

instance (c : Char) : Decidable (Solid c) :=
  decidable_of_iff (isDropped c = false ∧ isBlank c = false ∧ c ≠ '[' ∧ c ≠ '\\' ∧ c ≠ ':')
    ⟨fun ⟨h₁, h₂, h₃, h₄, h₅⟩ => ⟨h₁, h₂, h₃, h₄, h₅⟩, fun h => ⟨h.1, h.2, h.3, h.4, h.5⟩⟩

variable {screen : Screen} {c : Char} {s shown : List Char} {signs : List Sign} {width : Nat}

theorem Solid.ne_newline (h : Solid c) : c ≠ '\n' := by
  rintro rfl
  exact absurd h.nonblank (by decide)

theorem Solid.ne_tab (h : Solid c) : c ≠ '\t' := by
  rintro rfl
  exact absurd h.nonblank (by decide)

theorem begins_literal {text : String} (h : text = String.ofList (c :: s)) : Begins c text.toList := by
  rw [h, String.toList_ofList]
  exact ⟨s, rfl⟩

theorem Begins.append (h : Begins c s) (t : List Char) : Begins c (s ++ t) := by
  obtain ⟨r, rfl⟩ := h
  exact ⟨r ++ t, rfl⟩

theorem ne_of_begins {d : Char} {t : List Char} (hs : Begins c s) (ht : Begins d t) (h : c ≠ d) :
    s ≠ t := by
  obtain ⟨r, rfl⟩ := hs
  obtain ⟨r', rfl⟩ := ht
  intro he
  cases he
  exact h rfl

/-! ### Markup -/

theorem markupPieces_cons (hc : Solid c) (s : List Char) :
    markupPieces (c :: s) = .char c :: markupPieces s :=
  scanMarkup_plain hc.ne_backslash (fun he => absurd he hc.ne_bracket) 0

theorem begins_escapeChars (hc : Solid c) (h : Begins c s) : Begins c (escapeChars s) := by
  obtain ⟨t, rfl⟩ := h
  unfold escapeChars
  rw [markupPieces_cons hc]
  dsimp only
  split
  · exact ⟨_, rfl⟩
  · exact ⟨_, rfl⟩

theorem begins_showPieces (hc : Solid c) {position : Nat} {opened : List (List Char)}
    {pieces : List MarkupPiece} (h : showPieces position opened (.char c :: pieces) = .ok signs) :
    Begins c (withEmoji screen 0 signs) := by
  rw [showPieces] at h
  · obtain ⟨rest, -, rfl⟩ := map_ok_iff.mp h
    exact ⟨withEmoji screen 0 rest, withEmoji_char hc.ne_colon rest⟩
  · intro _ _ hb
    exact absurd hb hc.ne_backslash

theorem exists_signs_of_showMarkup (h : showMarkup screen s = .ok shown) :
    ∃ signs, showPieces 0 [] (markupPieces s) = .ok signs ∧ shown = withEmoji screen 0 signs := by
  obtain ⟨signs, hs, rfl⟩ := map_ok_iff.mp h
  obtain ⟨found, hf, h⟩ := bind_ok_iff.mp hs
  obtain ⟨_, _, h⟩ := bind_ok_iff.mp h
  cases h
  exact ⟨_, hf, rfl⟩

theorem begins_showMarkup (hc : Solid c) (hs : Begins c s) (h : showMarkup screen s = .ok shown) :
    Begins c shown := by
  obtain ⟨t, rfl⟩ := hs
  obtain ⟨signs, hs, rfl⟩ := exists_signs_of_showMarkup h
  rw [markupPieces_cons hc] at hs
  exact begins_showPieces hc hs

theorem begins_red {p : List Char} (tail : List Char) (hp : Tagless p) (hc : Solid c) (hb : Begins c p)
    (h : showMarkup screen ("[red]".toList ++ (p ++ ("[/red]".toList ++ tail))) = .ok shown) :
    Begins c shown := by
  obtain ⟨t, rfl⟩ := hb
  obtain ⟨signs, hs, rfl⟩ := exists_signs_of_showMarkup h
  rw [markupPieces_red hp, showPieces, if_neg (by decide)] at hs
  obtain ⟨⟨opened, style⟩, -, hs⟩ := bind_ok_iff.mp hs
  obtain ⟨rest, hr, hs⟩ := bind_ok_iff.mp hs
  cases hs
  show Begins c (withEmoji screen 0 (.tag style :: rest))
  rw [withEmoji]
  exact begins_showPieces hc hr

/-! ### Lines -/

theorem exists_split_cons (hc : c ≠ '\n') (s : List Char) :
    ∃ piece pieces, split '\n' (c :: s) = (c :: piece) :: pieces := by
  rw [split, if_neg hc]
  cases h : split '\n' s with
  | nil => exact absurd h (split_ne_nil '\n' s)
  | cons piece pieces => exact ⟨piece, pieces, rfl⟩

theorem exists_shownLines (hc : Solid c) (h : Begins c shown) :
    ∃ line lines, shownLines shown = (c :: line) :: lines := by
  obtain ⟨t, rfl⟩ := h
  obtain ⟨piece, pieces, hs⟩ := exists_split_cons hc.ne_newline (dropControls t)
  have hd : dropControls (c :: t) = c :: dropControls t := by
    unfold dropControls
    rw [List.filter_cons_of_pos]
    rw [hc.kept]
    rfl
  refine ⟨expandTabs (0 + cellWidth c) piece, pieces.map (expandTabs 0), ?_⟩
  rw [shownLines, hd, hs, List.map_cons, expandTabs, if_neg hc.ne_tab]

theorem begins_printed {markup line : String} (hc : Solid c)
    (hs : ∀ shown, showMarkup screen markup.toList = .ok shown → Begins c shown)
    (h : printed screen markup = .ok line) : Begins c line.toList := by
  obtain ⟨shown, hm, h⟩ := bind_ok_iff.mp h
  cases h
  obtain ⟨first, lines, hl⟩ := exists_shownLines hc (hs shown hm)
  rw [laidOut, String.toList_ofList, hl]
  cases lines with
  | nil => exact ⟨_, rfl⟩
  | cons second lines => exact ⟨_, rfl⟩

theorem begins_text {text line : String} (hc : Solid c) (hs : Begins c text.toList)
    (h : Report.text screen text = .ok line) : Begins c line.toList := by
  refine begins_printed hc (fun shown hm => ?_) h
  refine begins_showMarkup hc ?_ hm
  rw [escape, String.toList_ofList]
  exact begins_escapeChars hc hs

theorem begins_error {headline cause line : String} (hp : Tagless headline.toList) (hc : Solid c)
    (hs : Begins c headline.toList) (h : error screen headline cause = .ok line) :
    Begins c line.toList := by
  refine begins_printed hc (fun shown hm => ?_) h
  have he : escape headline = headline := by
    rw [escape, escapeChars_tagless hp, String.ofList_toList]
  rw [he] at hm
  split at hm
  · simp only [String.toList_append, List.append_assoc] at hm
    exact begins_red [] hp hc hs (by rwa [List.append_nil])
  · simp only [String.toList_append, List.append_assoc] at hm
    exact begins_red _ hp hc hs hm

theorem begins_crop (hw : cellWidth c = 1) (hs : Begins c s) (width : Nat) :
    Begins c (crop width s) ∨ crop width s = [] := by
  obtain ⟨t, rfl⟩ := hs
  unfold crop
  split
  · exact .inl ⟨t, rfl⟩
  · cases width with
    | zero =>
      have hn : takeCells 0 (c :: t) = [] := by
        rw [takeCells, if_neg (by omega)]
      right
      simp [hn]
    | succ width =>
      have hk : takeCells (width + 1) (c :: t) = c :: takeCells (width + 1 - cellWidth c) t := by
        rw [takeCells, if_pos (by omega)]
      left
      dsimp only
      rw [hk]
      exact ⟨_, rfl⟩

theorem begins_tree {kind : NodeKind} {label line : String}
    {children : List LabelTree} (hc : Solid c) (hw : cellWidth c = 1) (hs : Begins c label.toList)
    (h : (LabelTree.node kind label children).printed screen = .ok line) :
    Begins c line.toList ∨ Begins '\n' line.toList := by
  obtain ⟨lines, hl, h⟩ := bind_ok_iff.mp h
  cases h
  rw [LabelTree.lines] at hl
  obtain ⟨own, ho, hl⟩ := bind_ok_iff.mp hl
  obtain ⟨below, -, hl⟩ := bind_ok_iff.mp hl
  cases hl
  obtain ⟨shown, hm, ho⟩ := bind_ok_iff.mp ho
  cases ho
  obtain ⟨first, rest, hf⟩ := exists_shownLines hc (begins_showMarkup hc hs hm)
  rw [String.toList_ofList, hf, List.map_cons, joined, List.nil_append, List.cons_append,
    List.flatMap_cons]
  rcases begins_crop hw ⟨first, rfl⟩ (screen.width - cells []) with hb | he
  · exact .inl ((hb.append _).append _)
  · rw [he]
    exact .inr ⟨_, rfl⟩

/-- A dump begins with its lead, or with an empty line if there is no cell for it. -/
theorem begins_dump {level : Int} {lead line : String} {service : ServiceConfig}
    (hc : Solid c) (hw : cellWidth c = 1) (hs : Begins c lead.toList)
    (h : dump screen level lead service = .ok line) :
    Begins c line.toList ∨ Begins '\n' line.toList := by
  obtain ⟨tree, ht, hp⟩ := dump_ok_iff.mp h
  obtain ⟨extra, -, ht⟩ := bind_ok_iff.mp ht
  obtain ⟨endpoints, -, ht⟩ := bind_ok_iff.mp ht
  cases ht
  refine begins_tree hc hw ?_ hp
  rw [String.toList_append, String.toList_append, String.toList_append, escape,
    String.toList_ofList]
  exact (((begins_escapeChars hc hs).append _).append _).append _

end Preflight.Report

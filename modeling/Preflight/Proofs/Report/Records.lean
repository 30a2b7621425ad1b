import Mathlib.Data.List.SplitBy
import Mathlib.Data.List.TakeWhile
import Preflight.Report.LogRecord

/-!
# What a log record shows

Wrapping a line cuts it in pieces and loses nothing but blanks: each word goes to a line where it has its
cells but for the blanks behind it (`holds_place`), so what is dropped at the edge of a line is blank
(`inked_fitted`). A record begins with its level, and shows all that is no blank of its message
(`tells_logRecord`), if a line has room for a wide character.
-/

namespace Preflight.Report

open Text

def inked (s : List Char) : List Char := s.filter (!isBlank ·)

variable {width : Nat} {s t core line : List Char} {w : Wrapping}

@[simp] theorem inked_nil : inked [] = [] := rfl

@[simp] theorem inked_append (s t : List Char) : inked (s ++ t) = inked s ++ inked t := List.filter_append ..

theorem inked_blanks (h : ∀ c ∈ s, isBlank c = true) : inked s = [] :=
  List.filter_eq_nil_iff.mpr fun c hc => by simp [h c hc]

@[simp] theorem inked_replicate (n : Nat) : inked (List.replicate n ' ') = [] :=
  inked_blanks fun c hc => by rw [List.eq_of_mem_replicate hc]; decide

theorem inked_flatten (lines : List (List Char)) : inked lines.flatten = lines.flatMap inked := by
  rw [inked, List.filter_flatten]
  rfl

theorem flatMap_inked_map {f : List Char → List Char} {lines : List (List Char)}
    (h : ∀ line ∈ lines, inked (f line) = inked line) : (lines.map f).flatMap inked = lines.flatMap inked := by
  rw [List.flatMap_map]
  exact List.flatMap_congr h

/-! ### Blanks behind a line -/

/-- A line is a text with some blanks behind it. -/
def Trails (core line : List Char) : Prop := ∃ blanks, line = core ++ blanks ∧ ∀ c ∈ blanks, isBlank c = true

theorem Trails.inked_eq (h : Trails core line) : inked line = inked core := by
  obtain ⟨blanks, rfl, hb⟩ := h
  rw [inked_append, inked_blanks hb, List.append_nil]

def endBlanks (s : List Char) : Nat := (s.reverse.takeWhile isBlank).length

theorem dropEndBlanks_eq (s : List Char) :
    s = dropEndBlanks s ++ (s.reverse.takeWhile isBlank).reverse := by
  unfold dropEndBlanks
  rw [← List.reverse_append, List.takeWhile_append_dropWhile, List.reverse_reverse]

theorem trails_dropEndBlanks (s : List Char) : Trails (dropEndBlanks s) s :=
  ⟨_, dropEndBlanks_eq s, fun _ hc => List.mem_takeWhile_imp (List.mem_reverse.mp hc)⟩

theorem length_dropEndBlanks (s : List Char) : (dropEndBlanks s).length + endBlanks s = s.length := by
  conv => rhs; rw [dropEndBlanks_eq s]
  rw [List.length_append, List.length_reverse]
  rfl

theorem cells_dropEndBlanks_le (s : List Char) : cells (dropEndBlanks s) ≤ cells s := by
  conv => rhs; rw [dropEndBlanks_eq s]
  rw [cells_append]
  exact Nat.le_add_right _ _

/-- Of a line that ends in a word the blanks behind it are those behind the word, or more if the word is
blank. -/
theorem cells_dropEndBlanks_append_le (s t : List Char) :
    cells (dropEndBlanks (s ++ t)) ≤ cells (dropEndBlanks s) ∨
      dropEndBlanks (s ++ t) = s ++ dropEndBlanks t := by
  unfold dropEndBlanks
  rw [List.reverse_append, List.dropWhile_append]
  split
  · exact .inl (Nat.le_refl _)
  · rw [List.reverse_append, List.reverse_reverse]
    exact .inr rfl

theorem trails_take (h : Trails core line) {n : Nat} (hn : core.length ≤ n) : Trails core (line.take n) := by
  obtain ⟨blanks, rfl, hb⟩ := h
  refine ⟨blanks.take (n - core.length), ?_, fun c hc => hb c (List.mem_of_mem_take hc)⟩
  rw [List.take_append, List.take_of_length_le hn]

theorem trails_trimEdge (width : Nat) (line : List Char) :
    Trails (dropEndBlanks line) (trimEdge width line) := by
  have hlength := length_dropEndBlanks line
  refine trails_take (trails_dropEndBlanks line) ?_
  unfold endBlanks at hlength
  omega

theorem takeCells_append {n : Nat} (h : cells s ≤ n) (t : List Char) :
    takeCells n (s ++ t) = s ++ takeCells (n - cells s) t := by
  induction s generalizing n with
  | nil => rfl
  | cons c s ih =>
    rw [cells] at h
    rw [List.cons_append, takeCells, if_pos (by omega), ih (by omega), cells, Nat.sub_sub]
    rfl

theorem mem_takeCells {n : Nat} {c : Char} (h : c ∈ takeCells n s) : c ∈ s := by
  induction s generalizing n with
  | nil => exact h
  | cons d s ih =>
    rw [takeCells] at h
    split at h
    · exact (List.mem_cons.mp h).elim (fun h => h ▸ List.mem_cons_self) fun h => List.mem_cons_of_mem _ (ih h)
    · cases h

theorem trails_crop (h : Trails core line) (hw : cells core ≤ width) : Trails core (crop width line) := by
  obtain ⟨blanks, rfl, hb⟩ := h
  unfold crop
  split
  · exact ⟨blanks, rfl, hb⟩
  · dsimp only
    rw [takeCells_append hw, List.append_assoc]
    refine ⟨_, rfl, List.forall_mem_append.mpr ⟨fun c hc => hb c (mem_takeCells hc), fun c hc => ?_⟩⟩
    rw [List.eq_of_mem_replicate hc]
    decide

/-- Fitting a line drops nothing but blanks if all else has its cells. -/
theorem inked_fitted (h : cells (dropEndBlanks line) ≤ width) : inked (fitted width line) = inked line := by
  rw [fitted, (trails_crop (trails_trimEdge width line) h).inked_eq, (trails_dropEndBlanks line).inked_eq]

/-! ### Words -/

theorem flatten_wordsOf (line : List Char) : (wordsOf line).flatten = line := by
  have h := List.flatten_splitBy (fun c d => !isBlank c || isBlank d) line
  unfold wordsOf
  split
  · next lead word words hl =>
    rw [hl] at h
    split
    · rw [← h, List.flatten_cons, List.flatten_cons, List.flatten_cons, List.append_assoc]
    · exact h
  · exact h

/-- The pieces of a word are all of it, and each of them has its cells if each character has. -/
theorem exists_chop (hc : ∀ c, cellWidth c ≤ width) {used : Nat} (hu : used ≤ width) (s : List Char) :
    ∃ piece pieces, chop width used s = piece :: pieces ∧ (piece :: pieces).flatten = s ∧
      used + cells piece ≤ width ∧ ∀ p ∈ pieces, cells p ≤ width := by
  -- `used` varies, since the count begins anew where the word is cut
  induction s generalizing used with
  | nil => exact ⟨[], [], rfl, rfl, hu, List.forall_mem_nil _⟩
  | cons c s ih =>
    by_cases hb : width < used + cellWidth c
    · obtain ⟨piece, pieces, hs, hf, hp, hps⟩ := ih (hc c)
      refine ⟨[], (c :: piece) :: pieces, ?_, congrArg (c :: ·) hf, hu, List.forall_mem_cons.mpr ⟨hp, hps⟩⟩
      simp [chop, hb, hs]
    · obtain ⟨piece, pieces, hs, hf, hp, hps⟩ := ih (Nat.not_lt.mp hb)
      refine ⟨c :: piece, pieces, ?_, congrArg (c :: ·) hf, ?_, hps⟩
      · simp [chop, hb, hs]
      · rw [cells]
        omega

theorem fits_chop (hc : ∀ c, cellWidth c ≤ width) (s : List Char) :
    ∀ piece ∈ chop width 0 s, cells piece ≤ width := by
  obtain ⟨piece, pieces, hs, -, hp, hps⟩ := exists_chop hc (Nat.zero_le width) s
  rw [hs]
  exact List.forall_mem_cons.mpr ⟨by omega, hps⟩

/-! ### Wrapping -/

/-- A text that is being wrapped: its lines are all of it, and each has its cells but for the blanks at its
end. -/
structure Wrapping.Holds (width : Nat) (s : List Char) (w : Wrapping) : Prop where
  text : w.full.flatten ++ w.line = s
  used : w.used = cells w.line
  fits : ∀ line ∈ w.lines, cells (dropEndBlanks line) ≤ width

namespace Wrapping

theorem holds_start (width : Nat) : start.Holds width [] :=
  ⟨rfl, rfl, List.forall_mem_singleton.mpr (Nat.zero_le width)⟩

theorem flatten_closed (w : Wrapping) : w.closed.flatten = w.full.flatten ++ w.line := by
  unfold closed
  split
  · next h => rw [List.isEmpty_iff.mp h, List.append_nil]
  · rw [List.flatten_append, List.flatten_singleton]

theorem fits_closed (h : w.Holds width s) : ∀ line ∈ w.closed, cells (dropEndBlanks line) ≤ width := by
  have hl := List.forall_mem_append.mp h.fits
  unfold closed
  split
  · exact hl.1
  · exact h.fits

theorem fits_append (h : w.Holds width s) {word : List Char}
    (hn : w.used + cells (dropEndBlanks word) ≤ width) :
    cells (dropEndBlanks (w.line ++ word)) ≤ width := by
  have hline : cells (dropEndBlanks w.line) ≤ width :=
    h.fits _ (List.mem_append_right _ (List.mem_singleton_self _))
  rcases cells_dropEndBlanks_append_le w.line word with hle | heq
  · exact Nat.le_trans hle hline
  · rw [heq, cells_append, ← h.used]
    exact hn

theorem holds_place (hc : ∀ c, cellWidth c ≤ width) (h : w.Holds width s) (word : List Char) :
    (w.place width word).Holds width (s ++ word) := by
  have hlines := List.forall_mem_append.mp h.fits
  have hclosed : w.closed.flatten = s := w.flatten_closed.trans h.text
  unfold place
  dsimp only
  split
  · -- the word goes on in the line
    next hn =>
    refine ⟨?_, ?_, List.forall_mem_append.mpr ⟨hlines.1, List.forall_mem_singleton.mpr (fits_append h hn)⟩⟩
    · rw [← List.append_assoc, h.text]
    · rw [cells_append, ← h.used]
  · split
    · -- it begins a line
      next hn =>
      exact ⟨by rw [hclosed], rfl, List.forall_mem_append.mpr
        ⟨fits_closed h, List.forall_mem_singleton.mpr hn⟩⟩
    · -- it is cut, and its last piece begins a line
      have hfits (piece : List Char) (hm : piece ∈ chop width 0 word) :
          cells (dropEndBlanks piece) ≤ width :=
        Nat.le_trans (cells_dropEndBlanks_le piece) (fits_chop hc word piece hm)
      obtain ⟨piece, pieces, hp, hf, -⟩ := exists_chop hc (Nat.zero_le width) word
      have hne : chop width 0 word ≠ [] := by rw [hp]; exact List.cons_ne_nil _ _
      have hlast : (chop width 0 word).getLastD [] = (chop width 0 word).getLast hne :=
        List.getLastD_eq_getLast?.trans (by rw [List.getLast?_eq_some_getLast hne]; rfl)
      rw [hlast]
      refine ⟨?_, rfl, List.forall_mem_append.mpr ⟨List.forall_mem_append.mpr ⟨fits_closed h, ?_⟩, ?_⟩⟩
      · have hwhole := congrArg List.flatten (List.dropLast_append_getLast hne)
        rw [List.flatten_append, List.flatten_singleton] at hwhole
        rw [List.flatten_append, hclosed, List.append_assoc, hwhole, hp, hf]
      · exact fun piece hm => hfits piece (List.dropLast_subset _ hm)
      · exact List.forall_mem_singleton.mpr (hfits _ (List.getLast_mem hne))

theorem holds_foldl (hc : ∀ c, cellWidth c ≤ width) (h : w.Holds width s) (words : List (List Char)) :
    (words.foldl (place width) w).Holds width (s ++ words.flatten) := by
  induction words generalizing w s with
  | nil => rwa [List.flatten_nil, List.append_nil]
  | cons word words ih =>
    rw [List.foldl_cons, List.flatten_cons, ← List.append_assoc]
    exact ih (holds_place hc h word)

end Wrapping

/-- Wrapping a line drops nothing but blanks. -/
theorem inked_wrap (hc : ∀ c, cellWidth c ≤ width) (line : List Char) :
    (wrap width line).flatMap inked = inked line := by
  have h := Wrapping.holds_foldl hc (Wrapping.holds_start width) (wordsOf line)
  rw [flatten_wordsOf, List.nil_append] at h
  rw [wrap, flatMap_inked_map fun l hl => inked_fitted (h.fits l hl), ← inked_flatten]
  unfold Wrapping.lines
  rw [List.flatten_append, List.flatten_singleton, h.text]

/-! ### Records -/

theorem inked_expandTabs (cell : Nat) (s : List Char) : inked (expandTabs cell s) = inked s := by
  induction s generalizing cell with
  | nil => rfl
  | cons c s ih =>
    rw [expandTabs]
    split
    · next hc =>
      have htab : inked (c :: s) = inked s := List.filter_cons_of_neg (by rw [hc]; decide)
      rw [inked_append, inked_replicate, ih, htab, List.nil_append]
    · show inked ([c] ++ _) = inked ([c] ++ s)
      rw [inked_append, inked_append, ih]

theorem inked_split (s : List Char) : (split '\n' s).flatMap inked = inked s := by
  induction s with
  | nil => rfl
  | cons c s ih =>
    rw [split]
    split
    · next hc =>
      have hblank : inked (c :: s) = inked s := List.filter_cons_of_neg (by rw [hc]; decide)
      rw [List.flatMap_cons, ih, hblank]
      rfl
    · cases hs : split '\n' s with
      | nil => exact absurd hs (split_ne_nil '\n' s)
      | cons piece pieces =>
        rw [hs, List.flatMap_cons] at ih
        show inked ([c] ++ piece) ++ pieces.flatMap inked = inked ([c] ++ s)
        rw [inked_append, inked_append, List.append_assoc, ih]

theorem inked_shownLines (s : List Char) : (shownLines s).flatMap inked = inked (dropControls s) := by
  rw [shownLines, flatMap_inked_map fun line _ => inked_expandTabs 0 line, inked_split]

theorem cellWidth_le (c : Char) : cellWidth c ≤ 2 := by
  unfold cellWidth
  split
  · decide
  · split <;> decide

/-- A text that tells of a record: its level stands at its head, and all of its message that can be seen
behind that. -/
structure Tells (level : Level) (message text : String) : Prop where
  label : ∃ rest, text.toList = padded levelWidth level.label.toList ++ ' ' :: rest
  words : inked text.toList = level.label.toList ++ inked (dropControls message.toList)

theorem inked_padded (n : Nat) (s : List Char) : inked (padded n s) = inked s := by
  rw [padded, inked_append, inked_replicate, List.append_nil]

theorem inked_record (column : Nat) (label line : List Char) :
    inked (padded levelWidth label ++ ' ' :: padded column line ++ ['\n']) = inked label ++ inked line := by
  have hblank : inked (' ' :: padded column line) = inked (padded column line) :=
    List.filter_cons_of_neg (by decide)
  have hnewline : inked ['\n'] = [] := rfl
  rw [inked_append, inked_append, hblank, inked_padded, inked_padded, hnewline, List.append_nil]

theorem inked_records (column : Nat) (lines : List (List Char)) :
    inked (((List.replicate lines.length []).zip lines).flatMap fun (label, line) =>
      padded levelWidth label ++ ' ' :: padded column line ++ ['\n']) = lines.flatMap inked := by
  induction lines with
  | nil => rfl
  | cons line lines ih =>
    rw [List.length_cons, List.replicate_succ, List.zip_cons_cons, List.flatMap_cons, inked_append,
      inked_record, ih, List.flatMap_cons]
    rfl

theorem wrap_ne_nil (width : Nat) (line : List Char) : wrap width line ≠ [] := by
  unfold wrap Wrapping.lines
  simp

theorem exists_recordLines (column : Nat) (message : String) :
    ∃ line lines, (shownLines message.toList).flatMap (wrap column) = line :: lines := by
  refine List.exists_cons_of_ne_nil fun hnil => ?_
  obtain ⟨first, rest, hs⟩ := List.exists_cons_of_ne_nil (split_ne_nil '\n' (dropControls message.toList))
  have hfirst := List.flatMap_eq_nil_iff.mp hnil (expandTabs 0 first) (by
    rw [shownLines, hs]
    exact List.mem_cons_self)
  exact wrap_ne_nil _ _ hfirst

theorem inked_label (level : Level) : inked level.label.toList = level.label.toList := by
  cases level <;> decide +kernel

/-- A record shows its level and its message. -/
theorem tells_logRecord (hw : levelWidth + 3 ≤ width) (level : Level) (message : String) :
    Tells level message (logRecord width level message) := by
  have hc (c : Char) : cellWidth c ≤ width - levelWidth - 1 := by
    have := cellWidth_le c
    omega
  obtain ⟨line, lines, hl⟩ := exists_recordLines (width - levelWidth - 1) message
  have hinked : (line :: lines).flatMap inked = inked (dropControls message.toList) := by
    rw [← hl, List.flatMap_assoc, List.flatMap_congr fun line _ => inked_wrap hc line, inked_shownLines]
  unfold logRecord
  dsimp only
  rw [hl, List.length_cons, Nat.add_sub_cancel, List.zip_cons_cons, List.flatMap_cons]
  constructor
  · rw [String.toList_ofList]
    simp only [List.append_assoc, List.cons_append]
    exact ⟨_, rfl⟩
  · rw [String.toList_ofList, inked_append, inked_record, inked_records, inked_label, List.append_assoc,
      ← List.flatMap_cons, hinked]

end Preflight.Report

import Preflight.Text.CellWidth
import Preflight.Text.Split

/-!
# Laying out text

Characters that only move the cursor are dropped, tabs are filled up with blanks to the next multiple
of eight cells, counted from the start of their line, and lines may be cut to a number of cells.
-/

namespace Preflight.Report

open Text

/-- Whether a character is dropped: it rings, goes back, or moves to another line or page. -/
def isDropped (c : Char) : Bool := [7, 8, 11, 12, 13].contains c.toNat

def dropControls (s : List Char) : List Char := s.filter (!isDropped ·)

def tabSize : Nat := 8

/-- A line with its tabs filled up, its first character standing at a cell. -/
def expandTabs : Nat → List Char → List Char
  | _, [] => []
  | cell, c :: s =>
    if c = '\t' then
      let blanks := tabSize - cell % tabSize
      List.replicate blanks ' ' ++ expandTabs (cell + blanks) s
    else c :: expandTabs (cell + cellWidth c) s

def shownLines (s : List Char) : List (List Char) :=
  (split '\n' (dropControls s)).map (expandTabs 0)

/-- A text laid out on lines that are not cut. -/
def laidOut (shown : List Char) : String := String.ofList (joinWith '\n' (shownLines shown) ++ ['\n'])

/-- A line cut to a number of cells; a blank takes the place of half a character. -/
def crop (width : Nat) (line : List Char) : List Char :=
  if cells line ≤ width then line
  else
    let kept := takeCells width line
    kept ++ List.replicate (width - cells kept) ' '

theorem expandTabs_of_notMem {s : List Char} (h : '\t' ∉ s) (cell : Nat) : expandTabs cell s = s := by
  induction s generalizing cell with
  | nil => rfl
  | cons c s ih =>
    have hc : c ≠ '\t' := fun e => h (by simp [e])
    simp [expandTabs, hc, ih (fun hs => h (List.mem_cons_of_mem c hs))]

theorem expandTabs_append {s : List Char} (h : '\t' ∉ s) (cell : Nat) (t : List Char) :
    expandTabs cell (s ++ t) = s ++ expandTabs (cell + cells s) t := by
  induction s generalizing cell with
  | nil => rfl
  | cons c s ih =>
    obtain ⟨hc, hs⟩ := not_or.mp (mt List.mem_cons.mpr h)
    rw [List.cons_append, expandTabs, if_neg (Ne.symm hc), ih hs, cells, Nat.add_assoc]
    rfl

theorem cells_crop_le (width : Nat) (line : List Char) : cells (crop width line) ≤ width := by
  by_cases h : cells line ≤ width
  · simp [crop, h]
  · have := cells_takeCells_le width line
    have hr : ∀ n, cells (List.replicate n ' ') ≤ n := by
      intro n
      induction n with
      | zero => simp [cells]
      | succ n ih =>
        have : cellWidth ' ' = 1 := by decide
        simp only [List.replicate_succ, cells, this]
        omega
    have := hr (width - cells (takeCells width line))
    simp only [crop, h, if_false, cells_append]
    omega

end Preflight.Report

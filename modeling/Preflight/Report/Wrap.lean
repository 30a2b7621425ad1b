import Preflight.Report.Layout
import Preflight.Text.Blank

/-!
# Wrapping lines

A line is filled word by word, each word with the blanks behind it; the blanks at the end of a line
may stand over its edge and are dropped there. A word that is wider than a line starts on a line of
its own and is cut where the line is full.
-/

namespace Preflight.Report

open Text

/-- The words of a line, each with the blanks behind it; blanks at its head go with the first one. -/
def wordsOf (line : List Char) : List (List Char) :=
  match line.splitBy fun c d => !isBlank c || isBlank d with
  | lead :: word :: words => if lead.all isBlank then (lead ++ word) :: words else lead :: word :: words
  | words => words

def dropEndBlanks (s : List Char) : List Char := (s.reverse.dropWhile isBlank).reverse

/-- A word cut into pieces, the first of which stands behind `used` cells of a line. -/
def chop (width : Nat) : Nat → List Char → List (List Char)
  | _, [] => [[]]
  | used, c :: s =>
    let breaks := width < used + cellWidth c
    let pieces := chop width (if breaks then cellWidth c else used + cellWidth c) s
    let continued := (c :: pieces.headD []) :: pieces.tail
    if breaks then [] :: continued else continued

/-- A line being wrapped: the lines that are full, the one being filled, and its cells. -/
structure Wrapping where
  full : List (List Char)
  line : List Char
  used : Nat

namespace Wrapping

def start : Wrapping := ⟨[], [], 0⟩

/-- The lines that are full once the one being filled is given up. -/
def closed (w : Wrapping) : List (List Char) := if w.line.isEmpty then w.full else w.full ++ [w.line]

def place (width : Nat) (w : Wrapping) (word : List Char) : Wrapping :=
  let needed := cells (dropEndBlanks word)
  if w.used + needed ≤ width then ⟨w.full, w.line ++ word, w.used + cells word⟩
  else if needed ≤ width then ⟨w.closed, word, cells word⟩
  else
    let pieces := chop width 0 word
    let last := pieces.getLastD []
    ⟨w.closed ++ pieces.dropLast, last, cells last⟩

def lines (w : Wrapping) : List (List Char) := w.full ++ [w.line]

end Wrapping

/-- A line without the blanks at its end that stand over the edge. -/
def trimEdge (width : Nat) (line : List Char) : List Char :=
  let blanks := (line.reverse.takeWhile isBlank).length
  line.take (line.length - min blanks (line.length - width))

/-- A line without the blanks that stand over the edge, cut where it is still too wide. -/
def fitted (width : Nat) (line : List Char) : List Char := crop width (trimEdge width line)

def wrap (width : Nat) (line : List Char) : List (List Char) :=
  ((wordsOf line).foldl (Wrapping.place width) Wrapping.start).lines.map (fitted width)

theorem cells_le_of_mem_wrap {width : Nat} {line s : List Char} (h : s ∈ wrap width line) :
    cells s ≤ width := by
  obtain ⟨t, -, rfl⟩ := List.mem_map.1 h
  exact cells_crop_le _ _

end Preflight.Report

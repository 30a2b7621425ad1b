import Preflight.Report.Wrap
import Preflight.Run

/-!
# Log records in the report

A record stands in a line of its own: its level in a first column, its message, wrapped, in a second
one. Lines are filled up with blanks to the width of the report.
-/

namespace Preflight.Report

open Text

def levelWidth : Nat := 8

def padded (width : Nat) (s : List Char) : List Char := s ++ List.replicate (width - cells s) ' '

def logRecord (width : Nat) (level : Level) (message : String) : String :=
  let column := width - levelWidth - 1
  let lines := (shownLines message.toList).flatMap (wrap column)
  let labels := level.label.toList :: List.replicate (lines.length - 1) []
  String.ofList ((labels.zip lines).flatMap fun (label, line) =>
    padded levelWidth label ++ ' ' :: padded column line ++ ['\n'])

end Preflight.Report

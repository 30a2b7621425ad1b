import Preflight.Check.Fault
import Preflight.Proofs.Report.ConsoleText

/-!
# Texts in a report

Texts, successes and the causes of faults are no markup (`reported_as_text`): whatever they hold they are
shown with all their tags, and if their lines are legible they are printed as they are. Codes of emoji
that the screen knows are replaced in tags too. Colors are left alone.
-/

namespace Preflight.Check

open Report

theorem headline_fixed (fault : CheckFault) : Headline fault.headline.toList := by
  unfold CheckFault.headline
  split <;> decide +kernel

variable {screen : Screen}

/-- A text is printed without fault, with all its tags, wherever it is reported. -/
structure PrintedAsText (screen : Screen) (s : String) : Prop where
  text : ∃ shown, ShownAs (markupPieces s.toList) shown ∧
    Report.text screen s = .ok (laidOut (withEmoji screen 0 shown))
  success : ∃ shown, ShownAs (markupPieces s.toList) shown ∧
    Report.success screen s = .ok (laidOut (withEmoji screen 0 (shown ++ endMark s.toList)))
  /-- A text that is empty is no cause. -/
  headline : ∀ fault : CheckFault, s = "" →
    Report.error screen fault.headline s = .ok (fault.headline ++ "\n")
  error : ∀ fault : CheckFault, s ≠ "" → ∃ shown, ShownAs (markupPieces s.toList) shown ∧
    Report.error screen fault.headline s = .ok (laidOut (fault.headline.toList ++
      '\t' :: withEmoji screen 0 (shown ++ [.char '\n'])))

/-- A text is printed as it is wherever it is reported. -/
structure PrintedVerbatim (screen : Screen) (s : String) : Prop where
  text : Report.text screen s = .ok (s ++ "\n")
  success : Report.success screen s = .ok (s ++ "\n")
  error : ∀ fault : CheckFault, s ≠ "" → Report.error screen fault.headline s =
    .ok (fault.headline ++ String.ofList (gap fault.headline.toList) ++ s ++ "\n\n")

/-- Whatever is reported, it is no markup. -/
theorem reported_as_text (screen : Screen) (s : String) :
    PrintedAsText screen s ∧ (LegibleLines screen s.toList → PrintedVerbatim screen s) := by
  constructor
  · refine ⟨exists_text_shownAs screen s, exists_success_shownAs screen s, ?_, fun fault hs => ?_⟩
    · rintro fault rfl
      exact error_nil (headline_fixed fault)
    · exact exists_error_shownAs screen (headline_fixed fault) hs
  · intro h
    exact ⟨text_of_legible h, success_of_legible h, fun fault hs =>
      error_of_legible (headline_fixed fault) h hs⟩

/-- Tags of any kind, also ones that close what is not open, are plain text. -/
example : (text plainScreen "[bold] [/] [x").toOption = some "[bold] [/] [x\n" := by decide +kernel

end Preflight.Check

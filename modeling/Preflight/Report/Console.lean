import Preflight.Report.Layout
import Preflight.Report.Markup

/-!
# The operator's report

What a check prints: messages with markup, texts without, an error with its cause, a success.
-/

namespace Preflight.Report

open Text

def printed (screen : Screen) (markup : String) : Except (Failure MarkupFault) String := do
  let shown ← showMarkup screen markup.toList
  pure (laidOut shown)

def message (screen : Screen) (markup : String) : Except (Failure MarkupFault) String :=
  printed screen markup

def text (screen : Screen) (s : String) : Except (Failure MarkupFault) String := printed screen (escape s)

/-- Prints a headline, and a cause behind it if there is one. -/
def error (screen : Screen) (headline cause : String) : Except (Failure MarkupFault) String :=
  let line := "[red]" ++ escape headline ++ "[/red]"
  printed screen (if cause == "" then line else line ++ "\t" ++ escape cause ++ "\n")

def success (screen : Screen) (s : String) : Except (Failure MarkupFault) String :=
  printed screen ("[green]" ++ escape s ++ "[/green]")

end Preflight.Report

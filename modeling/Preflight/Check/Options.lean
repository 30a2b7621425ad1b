import Preflight.Gateway.BundledSchema
import Preflight.Path

/-!
# What a check is asked to do
-/

namespace Preflight.Check

open Gateway

def runningVersion : String := "2.9.1"

/-- What a check is asked to do: the configuration file, whether to lint it and by which schema, how
much of it to show, and whether to test its routes and on which port. Zero leaves the port as it is. -/
structure Options where
  path : Option Path := none
  lint : Bool := false
  schema : String := ""
  online : Bool := false
  debug : Int := 0
  testRoutes : Bool := false
  port : Int := 0
  embedded : Option String := some bundledText
  version : String := runningVersion

end Preflight.Check

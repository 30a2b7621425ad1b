import Preflight.Gateway.Parser
import Preflight.Report.Dump
import Preflight.Routing.Simulation
import Preflight.Schema.Compiled

/-!
# Why a check fails

Each stage of a check fails in its own way. A report of the failure has a headline, which tells the
stage, and a cause, which may be empty; the log has the kind of the failure only.
-/

namespace Preflight.Check

open Gateway Json Report Routing Schema Source

inductive CheckFault
  | noPath
  | parse (fault : ParseFault)
  | content (fault : ContentFault)
  | notJson (cause : Malformed)
  | options (conflict : SourceConflict)
  | load (fault : LoadFault)
  | lint (fault : LintFault)
  | dump (fault : DumpFault)
  | simulation (fault : SimulationFault)

namespace CheckFault

def headline : CheckFault → String
  | .noPath => "Please, provide the path to the configuration file with --config " ++
      "or see all the options with --help"
  | .parse _ => "ERROR parsing the configuration file:"
  | .content _ => "ERROR loading the configuration content:"
  | .notJson _ => "ERROR converting configuration content to JSON:"
  | .options _ => "You cannot use both the --schema and --online options simultaneously. " ++
      "These arguments are mutually exclusive."
  | .load _ => "ERROR loading the schema:"
  | .lint (.schema _) => "ERROR compiling the schema:"
  | .lint (.violations ..) => "ERROR linting the configuration file:"
  | .dump _ => "ERROR checking the configuration file:"
  | .simulation _ => "ERROR testing the configuration file:"

def message : CheckFault → String
  | .noPath => ""
  | .parse fault => fault.message
  | .content fault => fault.message
  | .notJson cause => cause.message
  | .options conflict => conflict.message
  | .load fault => fault.message
  | .lint (.schema fault) => fault.message
  | .lint (.violations uri violations) => violationsMessage uri violations
  | .dump fault => fault.message
  | .simulation fault => fault.message

def label : CheckFault → String
  | .noPath => "MissingConfigPath"
  | .parse _ => "ConfigParseError"
  | .content _ => "RawContentUnavailable"
  | .notJson _ => "InvalidJSON"
  | .options _ => "ConflictingOptions"
  | .load (.unsupportedScheme ..) => "UnsupportedScheme"
  | .load (.unreadable ..) | .load (.malformed ..) => "SchemaLoadError"
  | .load (.unavailable ..) => "UpstreamUnavailable"
  | .load (.badStatus ..) => "UnexpectedStatus"
  | .lint (.schema _) => "SchemaCompilationError"
  | .lint (.violations ..) => "SchemaValidationError"
  | .dump _ => "DumpError"
  | .simulation _ => "SimulationFailure"

end CheckFault

end Preflight.Check

import Preflight.Check.Fault
import Preflight.Check.Options
import Preflight.Report.Console

/-!
# The stages of a check

A check parses the configuration file and then, as far as it is asked to, lints what was parsed, shows
the configuration and tests its routes. Each stage stands on its own: it takes what parsing left and
either passes or fails.
-/

namespace Preflight.Check

open Gateway Json Report Routing Schema Source

abbrev Checking (α : Type) := Run (Failure CheckFault) α

/-- What parsing leaves to the other stages: the configuration, the source it was read from if that
was kept, and the world as it is then. -/
structure Parsed where
  config : ServiceConfig
  source : Option (List UInt8)
  world : World

abbrev ConfigParser := World → Path → Parsing Parsed

/-- The parser that keeps its source, placeholders replaced. -/
def keepingParser (env : Environment) : ConfigParser := fun world path =>
  (fun (config, rendered) => ⟨config, some (Text.utf8 rendered), world⟩) <$>
    parseFile world.read env path

/-- Where a check takes place: the world, the parser, and the screen of the report. -/
structure Setting where
  world : World
  parser : ConfigParser
  screen : Screen

def announce (printed : Except (Failure MarkupFault) String) : Run Mishap Unit :=
  match printed with
  | .ok text => Run.emit (.print text)
  | .error (.fault fault) => Run.fail (.badMarkup fault.message)
  | .error (.mishap m) => Run.fail m

def tell (printed : Except (Failure MarkupFault) String) : Checking Unit := (announce printed).mapError .mishap

def staged {ε α : Type} (f : ε → CheckFault) (x : Run (Failure ε) α) : Checking α :=
  x.mapError (·.map f)

def orFault {ε α : Type} (f : ε → CheckFault) (x : Except ε α) : Checking α :=
  Run.ofExcept (x.mapError fun e => .fault (f e))

def parseStage (setting : Setting) (path : Path) : Checking Parsed := do
  tell (text setting.screen s!"Parsing configuration file: {path.text}")
  staged .parse (setting.parser setting.world path)

/-- The content to lint: the source that parsing kept, or else what the file holds now. -/
def rawContent (path : Path) (parsed : Parsed) : Checking (List UInt8) :=
  match parsed.source with
  | some bytes => pure bytes
  | none => do
    Run.emit (.read path)
    orFault (fun cause => .content (.unreadable path.text cause)) (parsed.world.read path)

/-- Finds, loads and compiles the schema that the options ask for. -/
def chosenSchema (screen : Screen) (options : Options) (world : World) : Checking Compiled := do
  let source ← orFault .options
    (resolveSource options.schema options.online options.embedded options.version)
  tell (text screen s!"Using schema {source.describe}")
  let (uri, document) ← staged .load (loadSchema world defaultLoader source)
  staged (fun fault => .lint (.schema fault)) (compile uri document)

def lintStage (screen : Screen) (options : Options) (path : Path) (parsed : Parsed) : Checking Unit := do
  tell (message screen "Linting configuration file...")
  let bytes ← rawContent path parsed
  let v ← orFault .notJson (decodeBytes bytes)
  let schema ← chosenSchema screen options parsed.world
  staged .lint (schema.validate (fetchWith parsed.world (some defaultLoader)) v)

def dumpLead : String := "Parsed configuration: "

def dumpStage (screen : Screen) (options : Options) (config : ServiceConfig) : Checking Unit := do
  let printed ← staged .dump (Run.ofExcept (dump screen options.debug dumpLead config))
  Run.emit (.print printed)

def routesStage (screen : Screen) (options : Options) (config : ServiceConfig) : Checking Unit := do
  tell (message screen "Testing routes...")
  staged .simulation (simulate none 0 config options.debug options.port simulationTimeout).outcome

end Preflight.Check

import Preflight.Check.Stage

/-!
# The outcome of a check

The stages run in order and the first one that fails ends the check. The report ends with what came of
it: a success, or the headline and the cause of the failure. The status is 0 for a success and 1 for a
failure; a mishap ends the check without either.
-/

namespace Preflight.Check

open Gateway Report

def stageIf (wanted : Bool) (stage : Checking Unit) : Checking Unit :=
  if wanted then stage else pure ()

def examine (setting : Setting) (options : Options) (path : Path) (parsed : Parsed) :
    Checking Unit := do
  stageIf options.lint (lintStage setting.screen options path parsed)
  stageIf (0 < options.debug) (dumpStage setting.screen options parsed.config)
  stageIf options.testRoutes (routesStage setting.screen options parsed.config)

/-- Runs the stages; gives the configuration if all of them pass. -/
def run (setting : Setting) (options : Options) : Checking ServiceConfig :=
  match options.path with
  | none => Run.fail (.fault .noPath)
  | some path => do
    let parsed ← parseStage setting path
    examine setting options path parsed
    pure parsed.config

def conclude {α : Type} (screen : Screen) : Except (Failure CheckFault) α → Run Mishap Nat
  | .ok _ => do
    announce (success screen "Syntax OK!")
    pure 0
  | .error (.fault fault) => do
    Run.log .debug s!"check failed: {fault.label}"
    announce (error screen fault.headline fault.message)
    pure 1
  | .error (.mishap m) => Run.fail m

def check (setting : Setting) (options : Options) : Run Mishap Nat :=
  (run setting options).andThen (conclude setting.screen)

end Preflight.Check

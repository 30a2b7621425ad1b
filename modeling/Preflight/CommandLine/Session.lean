import Preflight.Check.Outcome
import Preflight.CommandLine.Invocation
import Preflight.Report.LogRecord

/-!
# Sessions

A session is one use of the program: what it prints, the requests it makes, and the status it ends
with. The status is 2 for arguments that are not accepted. Log records from the level that was chosen
on stand between the lines of the report.
-/

namespace Preflight.CommandLine

open Check Gateway Report Source

structure Session where
  status : Nat
  output : String
  complaint : String
  requests : List Request
  reads : List Path

/-- The least severe records that are shown: being verbose counts more than being quiet, and either
more than a level. -/
def CheckCommand.shownLevel (command : CheckCommand) : Level :=
  if command.verbose then .debug else if command.quiet then .error else command.logLevel

/-- The run of a check, whose mishaps are told as critical records. -/
def guarded (x : Run Mishap Nat) : Run Empty Nat :=
  x.andThen fun
    | .ok status => pure status
    | .error m => do
      Run.log .critical m.message
      pure 1

def shown (screen : Screen) (least : Level) : Event → String
  | .print text => text
  | .log level message =>
    if least.rank ≤ level.rank then logRecord screen.width level message else ""
  | .request _ => ""
  | .read _ => ""

namespace Session

def ofRun (screen : Screen) (least : Level) (x : Run Empty Nat) : Session where
  status := match x.result with
    | .ok status => status
    | .error e => nomatch e
  output := String.join (x.events.map (shown screen least))
  complaint := ""
  requests := x.requests
  reads := x.reads

def telling (output : String) : Session := ⟨0, output, "", [], []⟩

def refusing (error : UsageError) : Session :=
  let (usage, name) :=
    if error.ofCheck then (checkUsage, programName ++ " " ++ checkName) else (programUsage, programName)
  ⟨2, "", usage ++ name ++ ": error: " ++ error.fault.message ++ "\n", [], []⟩

def ofCheck (screen : Screen) (world : World) (env : Environment) (command : CheckCommand) : Session :=
  ofRun screen command.shownLevel
    (guarded (check ⟨world, keepingParser env, screen⟩ command.options))

def ofArguments (screen : Screen) (world : World) (env : Environment) (arguments : List String) :
    Session :=
  match Invocation.read arguments with
  | .error error => refusing error
  | .ok .programHelp => telling programHelp
  | .ok .version => telling (programName ++ " " ++ runningVersion ++ "\n")
  | .ok .checkHelp => telling checkHelp
  | .ok (.check command) => ofCheck screen world env command

end Session

end Preflight.CommandLine

import Preflight.Check.Options
import Preflight.CommandLine.Given
import Preflight.CommandLine.Help
import Preflight.Json.Reader
import Preflight.Run
import Preflight.Text.Integer

/-!
# Invocations

What the arguments of the program ask for: help, its version, or a check. The options of the program
stand before the command and those of a check behind it. A request for help or for the version counts
when it is reached, whatever follows it; words that belong to nothing are refused at the end.
-/

namespace Preflight.CommandLine

/-- What a check is asked for on the command line: what to do, and which log records to show. -/
structure CheckCommand where
  options : Check.Options := {}
  quiet : Bool := false
  verbose : Bool := false
  logLevel : Level := .info

inductive Invocation
  | programHelp
  | version
  | checkHelp
  | check (command : CheckCommand)

/-- Arguments that are not accepted, with the usage they offend. -/
structure UsageError where
  ofCheck : Bool
  fault : UsageFault

def levelNames : List (String × Level) :=
  [("debug", .debug), ("info", .info), ("warning", .warning), ("error", .error)]

def readPort? (s : String) : Option Int :=
  if Json.maxIntegerDigits < (s.toList.filter Text.isDecimalDigit).length then none
  else Text.readInteger? s

/-- How reading the options of a check comes to an end before the last one. -/
inductive Halt
  | help
  | fault (fault : UsageFault)

namespace CheckCommand

def withOptions (command : CheckCommand) (f : Check.Options → Check.Options) : CheckCommand :=
  { command with options := f command.options }

def readLevel (title value : String) : Except Halt Level :=
  match levelNames.lookup value with
  | some level => .ok level
  | none => .error (.fault (.badChoice title value (levelNames.map (·.1))))

def readPort (title value : String) : Except Halt Int :=
  match readPort? value with
  | some port => .ok port
  | none => .error (.fault (.notAnInteger title value))

/-- The command with one more option given; `value` is empty for an option without one. -/
def give (command : CheckCommand) (spec : OptionSpec CheckOption) (value : String) :
    Except Halt CheckCommand :=
  match spec.key with
  | .help => .error .help
  | .quiet => .ok { command with quiet := true }
  | .verbose => .ok { command with verbose := true }
  | .logLevel => (readLevel spec.title value).map fun logLevel => { command with logLevel }
  | .config => .ok (command.withOptions fun o => { o with path := some (Path.ofString value) })
  | .debug => .ok (command.withOptions fun o => { o with debug := o.debug + 1 })
  | .lint => .ok (command.withOptions fun o => { o with lint := true })
  | .schema => .ok (command.withOptions fun o => { o with schema := value })
  | .online => .ok (command.withOptions fun o => { o with online := true })
  | .testRoutes => .ok (command.withOptions fun o => { o with testRoutes := true })
  | .port => (readPort spec.title value).map fun port => command.withOptions fun o => { o with port }

/-- The command and the words left over after all that is given. -/
def giveAll (command : CheckCommand) : List (Given CheckOption) →
    Except Halt (CheckCommand × List String)
  | [] => .ok (command, [])
  | .option spec value :: rest => do
    (← command.give spec (value.getD "")).giveAll rest
  | .leftover word :: rest => do
    let (command, words) ← command.giveAll rest
    pure (command, word :: words)
  | .fault fault :: _ => .error (.fault fault)

end CheckCommand

namespace Invocation

/-- Reads the arguments of a check; `leftover` are the words left over before the command. -/
def ofCheck (leftover arguments : List String) : Except UsageError Invocation := do
  let words ← (readWords checkOptions arguments).mapError (UsageError.mk true)
  match CheckCommand.giveAll {} (givens checkOptions words) with
  | .error .help => pure .checkHelp
  | .error (.fault fault) => .error ⟨true, fault⟩
  | .ok (command, words) =>
    match leftover ++ words with
    | [] => pure (.check command)
    | unknown => .error ⟨false, .unrecognized unknown⟩

def ofOption : ProgramOption → Invocation
  | .help => .programHelp
  | .version => .version

/-- Reads the words up to the command; `leftover` are the words left over so far. -/
def ofWords (leftover : List String) :
    List (String × Word ProgramOption) → Except UsageError Invocation
  | [] => .error ⟨false, .missingCommand⟩
  | (text, word) :: rest =>
    match word, Bundle.ofWord? programOptions word with
    | _, some (.error fault) => .error ⟨false, fault⟩
    | _, some (.ok ⟨flag :: _, _⟩) => .ok (ofOption flag.key)
    | _, some (.ok ⟨[], .inl (spec, _)⟩) => .ok (ofOption spec.key)
    | _, some (.ok ⟨[], .inr letters⟩) => ofWords (leftover ++ [letters]) rest
    | .plain, none =>
      if text == checkName then ofCheck leftover (rest.map (·.1))
      else .error ⟨false, .badCommand text [checkName]⟩
    | .separator, none =>
      if rest.isEmpty then .error ⟨false, .missingCommand⟩
      else .error ⟨false, .badCommand text [checkName]⟩
    | _, none => ofWords (leftover ++ [text]) rest

def read (arguments : List String) : Except UsageError Invocation := do
  let words ← (readWords programOptions arguments).mapError (UsageError.mk false)
  ofWords [] words

end Invocation

end Preflight.CommandLine

import Preflight.Decimal.Shortest
import Preflight.Json.Reader
import Preflight.Mishap
import Preflight.Routing.Router

/-!
# Simulating a start

A router is started on a copy of the configuration to see whether it accepts it, for a limited time.
Whatever goes wrong with it is a failure of the simulation, in the words of the fault; taking too long is
none. In the end the context that the router was given is cancelled.
-/

namespace Preflight.Routing

open Gateway Json

/-- The configuration that a simulation uses: a debug level turns the debug route on, and a port
other than zero replaces the configured one. -/
def simulationConfig (config : ServiceConfig) (debug port : Int) : ServiceConfig :=
  { config with
    debug := config.debug || 0 < debug
    port := if port = 0 then config.port else port }

/-! ### Faults in words -/

@[irreducible] def leastLongInteger : Nat := Nat.pow 10 maxIntegerDigits

mutual

/-- Whether a value holds an integer with too many digits to be written. -/
def holdsLongInteger : Value → Bool
  | .int n => leastLongInteger ≤ n.natAbs
  | .array items => holdLongInteger items
  | .object members => membersHoldLongInteger members
  | _ => false

def holdLongInteger : List Value → Bool
  | [] => false
  | v :: vs => holdsLongInteger v || holdLongInteger vs

def membersHoldLongInteger : Members → Bool
  | [] => false
  | (_, v) :: rest => holdsLongInteger v || membersHoldLongInteger rest

end

def longIntegerText : String :=
  s!"Exceeds the limit ({maxIntegerDigits} digits) for integer string conversion; " ++
    "use sys.set_int_max_str_digits() to increase the limit"

/-- The text of a fault raised with some arguments: nothing, the argument, or the list of them.
Some kinds of faults quote their only argument. -/
def foreignText (quotes : Bool) (arguments : List Value) : Except Mishap String :=
  if holdLongInteger arguments then .error (.longInteger longIntegerText)
  else match arguments with
    | [] => .ok ""
    | [v] => .ok (if quotes then v.show else v.plain)
    | vs => .ok ("(" ++ ", ".intercalate (vs.map Value.show) ++ ")")

/-- How a fault is put into words: by its arguments, or by a rule of its kind, which may go wrong. -/
inductive Wording
  | plain
  | quoting
  | own (text : List Value → Except Mishap String)

/-- A kind of faults that routers know nothing of. -/
structure FaultKind where
  name : String
  wording : Wording
  name_ne : name ≠ "" := by decide

def FaultKind.text (kind : FaultKind) (arguments : List Value) : Except Mishap String :=
  match kind.wording with
  | .plain => foreignText false arguments
  | .quoting => foreignText true arguments
  | .own text => text arguments

/-- What goes wrong with a router: a fault of its own, or one of a foreign kind, raised with some
arguments. -/
inductive StartFault
  | router (fault : RouterFault)
  | foreign (kind : FaultKind) (arguments : List Value)

namespace StartFault

def kind : StartFault → String
  | .router (.invalidPort _) => "ValueError"
  | .router (.conflict _) => "RouteConflictError"
  | .foreign kind _ => kind.name

/-- The fault's own text, which may be empty, and asking for which may go wrong. -/
def text : StartFault → Except Mishap String
  | .router fault => .ok fault.message
  | .foreign kind arguments => kind.text arguments

/-- The fault in words; its kind stands in for an empty text. -/
def describe (fault : StartFault) : Except Mishap String :=
  fault.text.map fun text => if text == "" then fault.kind else text

end StartFault

/-! ### Routers and their makers -/

/-- Why a router is not there in the end: a fault, or it took longer than it had. -/
inductive Setback
  | raised (fault : StartFault)
  | hung

/-- What makes routers and runs them, as someone sees it who waits for a limited time. -/
structure Factory where
  make : Context → Run Setback Unit
  run : Context → ServiceConfig → Run Setback Unit

def Factory.start (factory : Factory) (context : Context) (config : ServiceConfig) : Run Setback Unit := do
  factory.make context
  factory.run context config

/-- A logger below that of the program: whether it takes no records at all, and whether it hands them on
to the one above it. -/
structure Logger where
  disabled : Bool
  propagates : Bool

def Logger.handsOn (logger : Logger) (records : List (Level × String)) : List (Level × String) :=
  if logger.disabled || !logger.propagates then [] else records

/-- The logger of routers that are started for checking only. -/
def silentLogger : Logger := ⟨true, false⟩

/-- The factory of real routers, which are taken to start before the deadline. -/
def defaultFactory (logger : Logger) : Factory where
  make _ := .ok ()
  run _ config :=
    let startup := Routing.start (fun _ => none) config
    ⟨(logger.handsOn startup.logs).map fun (level, message) => .log level message,
      match startup.result with
      | .ok _ => .ok ()
      | .error fault => .error (.raised (.router fault))⟩

/-! ### Simulations -/

/-- A simulation that failed, with the fault behind it. -/
structure SimulationFault where
  fault : StartFault
  message : String

def simulationTimeout : Number := .float (.ofInt 1)

def numberText : Number → String
  | .int n => toString n
  | .float x => x.text

def spanOf : Number → Time
  | .int n => n
  | .float x =>
    match x.toFraction? with
    | some (n, d) => (n : Rat) / (d : Rat)
    | none => 0

def longestWait : Time := 9223372036854775807 / 1000000000

/-- What is wrong with a number as a time to wait for. A negative one counts as none at all. -/
def waitMishap? : Number → Option Mishap
  | .int n =>
    if longestWait < n then some (.overflow "timestamp too large to convert to C _PyTime_t") else none
  | .float .nan => some .nanSpan
  | .float (.infinite false) => some (.overflow "timestamp out of range for platform time_t")
  | .float x =>
    if longestWait < spanOf (.float x) then some (.overflow "timestamp out of range for platform time_t")
    else none

/-- What a simulation comes to, with the context that the router was given as it is in the end. -/
structure Simulation where
  context : Context
  outcome : Run (Failure SimulationFault) Unit

/-- What the end of a start is for a simulation: a fault is one if there are words for it. -/
def settle (timeout : Number) : Except Setback Unit → Run (Failure SimulationFault) Unit
  | .ok () => Run.log .debug "router started"
  | .error (.raised fault) =>
    match fault.describe with
    | .ok message => Run.fail (.fault ⟨fault, message⟩)
    | .error mishap => Run.fail (.mishap mishap)
  | .error .hung => Run.log .warning
      s!"router startup did not complete within {numberText timeout}s, stopped"

/-- What comes of a start that is waited for. -/
def awaited (timeout : Number) (start : Run Setback Unit) : Run (Failure SimulationFault) Unit :=
  match waitMishap? timeout with
  | some mishap => Run.fail (.mishap mishap)
  | none => start.andThen (settle timeout)

/-- Starts a router, a real one with its records kept silent unless a factory is given. The context is
cancelled whatever comes of the start. -/
def simulate (factory : Option Factory) (now : Time) (config : ServiceConfig) (debug port : Int)
    (timeout : Number) : Simulation :=
  let context := Context.withTimeout now (spanOf timeout)
  let factory := factory.getD (defaultFactory silentLogger)
  ⟨context.cancel, awaited timeout (factory.start context (simulationConfig config debug port))⟩

end Preflight.Routing

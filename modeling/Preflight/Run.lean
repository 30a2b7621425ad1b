import Preflight.Json.Number
import Preflight.Path

/-!
# Runs

A run is what a computation shows to the outside, in order, and how it ends. Reports, log records,
requests and reads are projections of the events; running two computations one after the other appends
their events, and a failure ends the run.
-/

namespace Preflight

/-- The levels of log records, from the least to the most severe. -/
inductive Level
  | debug
  | info
  | warning
  | error
  | critical
  deriving DecidableEq, Repr

def Level.rank : Level → Nat
  | .debug => 0
  | .info => 1
  | .warning => 2
  | .error => 3
  | .critical => 4

def Level.label : Level → String
  | .debug => "DEBUG"
  | .info => "INFO"
  | .warning => "WARNING"
  | .error => "ERROR"
  | .critical => "CRITICAL"

/-- A request for a document: whether its body was read and whether the response was closed. -/
structure Request where
  url : String
  timeout : Json.Number
  read : Bool
  closed : Bool
  deriving DecidableEq, Repr

/-- What a run shows to the outside. -/
inductive Event
  | print (text : String)
  | log (level : Level) (message : String)
  | request (r : Request)
  | read (path : Path)
  deriving DecidableEq, Repr

/-- The events of a computation and its result. -/
structure Run (ε α : Type) where
  events : List Event
  result : Except ε α

namespace Run

variable {ε ε' α β : Type}

def ok (a : α) : Run ε α := ⟨[], .ok a⟩

def fail (e : ε) : Run ε α := ⟨[], .error e⟩

def ofExcept (r : Except ε α) : Run ε α := ⟨[], r⟩

def emit (e : Event) : Run ε Unit := ⟨[e], .ok ()⟩

def bind (x : Run ε α) (f : α → Run ε β) : Run ε β :=
  match x.result with
  | .ok a => ⟨x.events ++ (f a).events, (f a).result⟩
  | .error e => ⟨x.events, .error e⟩

instance : Monad (Run ε) where
  pure := ok
  bind := bind

/-- The computation with its failure described otherwise. -/
def mapError (f : ε → ε') (x : Run ε α) : Run ε' α := ⟨x.events, x.result.mapError f⟩

def andThen (x : Run ε α) (f : Except ε α → Run ε' β) : Run ε' β :=
  ⟨x.events ++ (f x.result).events, (f x.result).result⟩

def log (level : Level) (message : String) : Run ε Unit := emit (.log level message)

def logs (x : Run ε α) : List (Level × String) :=
  x.events.filterMap fun
    | .log level message => some (level, message)
    | _ => none

def requests (x : Run ε α) : List Request :=
  x.events.filterMap fun
    | .request r => some r
    | _ => none

def reads (x : Run ε α) : List Path :=
  x.events.filterMap fun
    | .read path => some path
    | _ => none

def output (x : Run ε α) : String :=
  String.join (x.events.filterMap fun
    | .print text => some text
    | _ => none)

@[simp] theorem pure_events (a : α) : (pure a : Run ε α).events = [] := rfl

@[simp] theorem pure_result (a : α) : (pure a : Run ε α).result = .ok a := rfl

theorem bind_of_ok {x : Run ε α} {a : α} (f : α → Run ε β) (h : x.result = .ok a) :
    x >>= f = ⟨x.events ++ (f a).events, (f a).result⟩ := by
  show bind x f = _
  simp [bind, h]

theorem bind_of_error {x : Run ε α} {e : ε} (f : α → Run ε β) (h : x.result = .error e) :
    x >>= f = ⟨x.events, .error e⟩ := by
  show bind x f = _
  simp [bind, h]

theorem bind_result_ok_iff {x : Run ε α} {f : α → Run ε β} {b : β} :
    (x >>= f).result = .ok b ↔ ∃ a, x.result = .ok a ∧ (f a).result = .ok b := by
  cases h : x.result with
  | ok a =>
    rw [bind_of_ok f h]
    refine ⟨fun hb => ⟨a, rfl, hb⟩, ?_⟩
    rintro ⟨a', ha, hb⟩
    cases ha
    exact hb
  | error e =>
    rw [bind_of_error f h]
    refine ⟨fun hb => ?_, ?_⟩
    · cases hb
    · rintro ⟨a, ha, -⟩
      cases ha

theorem bind_result_error_iff {x : Run ε α} {f : α → Run ε β} {e : ε} :
    (x >>= f).result = .error e ↔
      x.result = .error e ∨ ∃ a, x.result = .ok a ∧ (f a).result = .error e := by
  cases h : x.result with
  | ok a =>
    rw [bind_of_ok f h]
    refine ⟨fun he => .inr ⟨a, rfl, he⟩, ?_⟩
    rintro (he | ⟨a', ha, he⟩)
    · cases he
    · cases ha
      exact he
  | error e' =>
    rw [bind_of_error f h]
    constructor
    · intro he
      cases he
      exact .inl rfl
    · rintro (he | ⟨a, ha, -⟩)
      · cases he
        rfl
      · cases ha

end Run

end Preflight

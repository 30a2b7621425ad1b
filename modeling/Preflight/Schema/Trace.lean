import Preflight.Schema.Resolver

/-!
# Traces of an evaluation

Evaluating a schema yields findings one after another, and shows events on the way. Who only asks
whether there is a finding takes the first one and leaves the rest undone; who reports takes them
all. A trace is the evaluation seen this way: what comes after an event or a finding is worked out
on demand.
-/

namespace Preflight.Schema

open Json

/-- A step into a value: a name of an object or an index of an array. -/
inductive Step
  | name (s : String)
  | index (n : Nat)
  deriving DecidableEq, Repr

def Step.text : Step → String
  | .name s => s
  | .index n => toString n

/-- Something in a value that a schema does not allow: the keyword, the way to the place in the
value, the way through the schema, and the name of the property if one is missing. -/
structure Finding where
  keyword : Option String
  valuePath : List Step
  schemaPath : List Step
  message : String
  missing : Option String
  deriving DecidableEq, Repr

def Finding.ofMessage (message : String) : Finding := ⟨none, [], [], message, none⟩

/-- The course of an evaluation. -/
inductive Trace
  | done
  | stop (reason : Stop)
  | event (e : Event) (next : Unit → Trace)
  | finding (x : Finding) (next : Unit → Trace)

namespace Trace

def followedBy : Trace → (Unit → Trace) → Trace
  | .done, k => k ()
  | .stop reason, _ => .stop reason
  | .event e next, k => .event e fun u => (next u).followedBy k
  | .finding x next, k => .finding x fun u => (next u).followedBy k

def each {α : Type} (f : α → Trace) : List α → Trace
  | [] => .done
  | a :: as => (f a).followedBy fun _ => each f as

def map (f : Finding → Finding) : Trace → Trace
  | .done => .done
  | .stop reason => .stop reason
  | .event e next => .event e fun u => (next u).map f
  | .finding x next => .finding (f x) fun u => (next u).map f

def report (x : Finding) : Trace := .finding x fun _ => .done

def ofMessage? : Option String → Trace
  | some message => report (.ofMessage message)
  | none => .done

/-- Shows the events of a search and goes on with its result. -/
def after {α : Type} (search : Search α) (k : α → Trace) : Trace :=
  search.events.foldr (fun e t => .event e fun _ => t)
    (match search.result with
      | .ok a => k a
      | .error reason => .stop reason)

def first? : Trace → Search (Option Finding)
  | .done => .ok none
  | .stop reason => .fail reason
  | .event e next =>
    let rest := (next ()).first?
    ⟨e :: rest.events, rest.result⟩
  | .finding x _ => .ok (some x)

def isClean (t : Trace) : Search Bool := do
  let x ← t.first?
  pure x.isNone

def findings : Trace → Search (List Finding)
  | .done => .ok []
  | .stop reason => .fail reason
  | .event e next =>
    let rest := (next ()).findings
    ⟨e :: rest.events, rest.result⟩
  | .finding x next =>
    let rest := (next ()).findings
    ⟨rest.events, rest.result.map (x :: ·)⟩

end Trace

end Preflight.Schema

/-!
# Contexts

A context is shared between who starts a router and the router: it is done once it is cancelled or
its deadline has come. Time is a parameter: every question is asked at a moment, in seconds.
-/

namespace Preflight.Routing

abbrev Time := Rat

inductive ContextEnd
  | cancelled
  | deadlineExceeded
  deriving DecidableEq, Repr

def ContextEnd.message : ContextEnd → String
  | .cancelled => "context canceled"
  | .deadlineExceeded => "context deadline exceeded"

/-- A context with its deadline, if it has one. -/
structure Context where
  deadline : Option Time
  cancelled : Bool
  deriving DecidableEq, Repr

namespace Context

def background : Context := ⟨none, false⟩

def withTimeout (now timeout : Time) : Context := ⟨some (now + timeout), false⟩

def cancel (c : Context) : Context := { c with cancelled := true }

def spanFrom (t : Time) : Time := if t ≤ 0 then 0 else t

def remaining (c : Context) (now : Time) : Option Time := c.deadline.map fun d => spanFrom (d - now)

/-- Why the context is done, if it is; having been cancelled is told first. -/
def err (c : Context) (now : Time) : Option ContextEnd :=
  if c.cancelled then some .cancelled
  else match c.deadline with
    | some d => if d ≤ now then some .deadlineExceeded else none
    | none => none

def done (c : Context) (now : Time) : Bool := (c.err now).isSome

/-- How long a wait may take: what is asked for, but no longer than until the deadline. -/
def allowance (c : Context) (now : Time) : Option Time → Option Time
  | none => c.remaining now
  | some timeout =>
    match c.remaining now with
    | none => some timeout
    | some left => some (if timeout ≤ left then timeout else left)

/-- Waits until the context is done, at most for a given time. Gives the moment at which the wait is
over and whether the context is done then; `none` if nothing ever ends the wait. -/
def wait (c : Context) (now : Time) (timeout : Option Time) : Option (Time × Bool) :=
  if c.cancelled then some (now, true)
  else (c.allowance now timeout).map fun span =>
    let after := now + spanFrom span
    (after, c.done after)

end Context

end Preflight.Routing

import Preflight.Gateway.Method
import Preflight.Routing.Tree

/-!
# The routing engine

One route tree for each HTTP method and the list of the routes registered so far, in the order they
were accepted. A refused route leaves the list as it is.
-/

namespace Preflight.Routing

open Gateway

structure Route where
  method : String
  path : String
  deriving DecidableEq, Repr

/-- The trees of the methods seen so far, and the accepted routes in order. -/
structure Engine (η : Type) where
  trees : Table (RouteTree η)
  routes : List Route

namespace Engine

variable {η : Type}

def empty : Engine η := ⟨[], []⟩

def tree (engine : Engine η) (method : String) : RouteTree η :=
  (engine.trees.lookup method).getD Node.empty

def handle (engine : Engine η) (method path : String) (handler : η) :
    Engine η × Except RouteConflict Unit :=
  let (tree, outcome) := (engine.tree method).add path handler
  let trees := Table.put engine.trees method tree
  match outcome with
  | .ok () => (⟨trees, engine.routes ++ [⟨method, path⟩]⟩, .ok ())
  | .error conflict => (⟨trees, engine.routes⟩, .error conflict)

/-- Registers a path for several methods, up to the first that refuses it. -/
def handleAll (path : String) (handler : η) :
    List String → Engine η → Engine η × Except RouteConflict Unit
  | [], engine => (engine, .ok ())
  | method :: methods, engine =>
    match engine.handle method path handler with
    | (engine, .ok ()) => handleAll path handler methods engine
    | (engine, .error conflict) => (engine, .error conflict)

def any (engine : Engine η) (path : String) (handler : η) : Engine η × Except RouteConflict Unit :=
  handleAll path handler anyMethods engine

end Engine

end Preflight.Routing

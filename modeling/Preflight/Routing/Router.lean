import Preflight.Routing.Context
import Preflight.Routing.Engine
import Preflight.Routing.Proxy
import Preflight.Routing.Template
import Preflight.Run

/-!
# Starting a router

A router registers a route for its health check, the debug and echo routes if they are on, and one
route per endpoint, in order. An endpoint without a proxy is passed over; a route that cannot be
registered ends the start. Before each endpoint the router looks whether its context is done.
-/

namespace Preflight.Routing

open Gateway

inductive Handler
  | health
  | debug
  | echo
  | proxy (p : Proxy)

def healthPath : String := "/__health"

def debugPath : String := "/__debug/*param"

def echoPath : String := "/__echo/*param"

inductive RouterFault
  | invalidPort (port : Int)
  | conflict (c : RouteConflict)

def RouterFault.message : RouterFault → String
  | .invalidPort port => s!"invalid listening port {port}"
  | .conflict c => c.message

/-- The start of a router: the proxies it built, its log, and its engine or why it has none. -/
structure Startup where
  proxies : List Proxy
  logs : List (Level × String)
  result : Except RouterFault (Engine Handler)

namespace Startup

def finish (logs : List (Level × String)) (engine : Engine Handler) : Startup := ⟨[], logs, .ok engine⟩

def logged (level : Level) (message : String) (s : Startup) : Startup :=
  { s with logs := (level, message) :: s.logs }

def built (p : Proxy) (s : Startup) : Startup := { s with proxies := p :: s.proxies }

end Startup

/-- What a registration comes to: the start goes on with the engine, or a conflict ends it. -/
def proceed (r : Engine Handler × Except RouteConflict Unit) (k : Engine Handler → Startup) : Startup :=
  match r with
  | (engine, .ok ()) => k engine
  | (_, .error c) => ⟨[], [], .error (.conflict c)⟩

def startedMessage (config : ServiceConfig) (engine : Engine Handler) : String :=
  s!"[SERVICE: Router] {engine.routes.length} routes, port {config.port}"

def stoppedMessage (reason : ContextEnd) : String :=
  s!"[SERVICE: Router] stopped: {reason.message}"

def skippedMessage (path : String) (fault : ProxyFault) : String :=
  s!"[ENDPOINT: {path}] Calling the ProxyFactory: {fault.message}"

/-- Registers the endpoints from the `i`-th one on; `context i` is what the context says before the
`i`-th one is looked at. -/
def registerEndpoints (context : Nat → Option ContextEnd) (config : ServiceConfig) :
    Nat → List EndpointConfig → Engine Handler → Startup
  | _, [], engine => .finish [(.info, startedMessage config engine)] engine
  | i, endpoint :: endpoints, engine =>
    match context i with
    | some reason => .finish [(.warning, stoppedMessage reason)] engine
    | none =>
      match Proxy.ofEndpoint config endpoint with
      | .error fault =>
        (registerEndpoints context config (i + 1) endpoints engine).logged .error
          (skippedMessage endpoint.path fault)
      | .ok p =>
        ((proceed (engine.handle endpoint.method (endpointPath endpoint.path) (.proxy p))
          (registerEndpoints context config (i + 1) endpoints)).built p).logged .debug p.text

def registerAny (wanted : Bool) (path : String) (handler : Handler) (engine : Engine Handler)
    (k : Engine Handler → Startup) : Startup :=
  if wanted then proceed (engine.any path handler) k else k engine

def start (context : Nat → Option ContextEnd) (config : ServiceConfig) : Startup :=
  if 0 < config.port ∧ config.port < 65536 then
    proceed (Engine.empty.handle "GET" healthPath .health) fun engine =>
      registerAny config.debug debugPath .debug engine fun engine =>
        registerAny config.echo echoPath .echo engine fun engine =>
          registerEndpoints context config 0 config.endpoints engine
  else ⟨[], [], .error (.invalidPort config.port)⟩

end Preflight.Routing

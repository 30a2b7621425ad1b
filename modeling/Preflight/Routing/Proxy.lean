import Preflight.Gateway.Config
import Preflight.Json.Show
import Preflight.Text.Split

/-!
# Proxies

What an endpoint forwards its requests to: for each of its backends and each host of the backend,
the host followed by the backend's pattern. A backend without hosts of its own uses those of the
service.
-/

namespace Preflight.Routing

open Gateway Text

inductive ProxyFault
  | noBackends (path : String)
  | noHosts (urlPattern : String)
  deriving DecidableEq, Repr

def ProxyFault.message : ProxyFault → String
  | .noBackends path => s!"no backends for endpoint {path}"
  | .noHosts urlPattern => s!"no hosts defined for backend {urlPattern}"

/-- Where an endpoint forwards its requests. -/
structure Proxy where
  path : String
  method : String
  targets : List String
  deriving DecidableEq, Repr

def hostsFor (service : ServiceConfig) (backend : BackendConfig) : List String :=
  if backend.hosts.isEmpty then service.hosts else backend.hosts

/-- A host, without slashes at its end, followed by a pattern. -/
def target (urlPattern host : String) : String :=
  String.ofList (dropTrailing '/' host.toList) ++ urlPattern

def targets (service : ServiceConfig) (backend : BackendConfig) : Except ProxyFault (List String) :=
  let hosts := hostsFor service backend
  if hosts.isEmpty then .error (.noHosts backend.urlPattern)
  else .ok (hosts.map (target backend.urlPattern))

def allTargets (service : ServiceConfig) : List BackendConfig → Except ProxyFault (List String)
  | [] => .ok []
  | backend :: backends => do
    let first ← targets service backend
    let rest ← allTargets service backends
    pure (first ++ rest)

def Proxy.ofEndpoint (service : ServiceConfig) (endpoint : EndpointConfig) :
    Except ProxyFault Proxy :=
  if endpoint.backends.isEmpty then .error (.noBackends endpoint.path)
  else do
    let targets ← allTargets service endpoint.backends
    pure ⟨endpoint.path, endpoint.method, targets⟩

def Proxy.text (p : Proxy) : String :=
  s!"proxy {p.method} {p.path} -> {(Json.Value.array (p.targets.map .string)).show}"

end Preflight.Routing

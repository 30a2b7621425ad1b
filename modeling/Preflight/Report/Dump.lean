import Preflight.Gateway.Config
import Preflight.Json.Indented
import Preflight.Json.Show
import Preflight.Report.Tree
import Preflight.Routing.Proxy

/-!
# Dumping a configuration

The tree of a configuration. Level one shows the service and its endpoints, level two also the
backends, and level three the free sections that are not empty.
-/

namespace Preflight.Report

open Gateway Json Routing

inductive DumpFault
  | unrenderable (reason : String)
  | markup (fault : MarkupFault)
  deriving DecidableEq, Repr

def DumpFault.message : DumpFault → String
  | .unrenderable reason => s!"extra_config cannot be rendered: {reason}"
  | .markup fault => fault.message

def orDash (s : String) : String := if s == "" then "-" else s

def flagText (b : Bool) : String := (Value.bool b).show

def hostsText (hosts : List String) : String := escape (", ".intercalate hosts)

def extraNodes (level : Int) (extra : Extra) : Except DumpFault (List LabelTree) :=
  if level < 3 || extra.isEmpty then .ok []
  else match extra with
    | .members m => .ok [.leaf .extra ("extra_config: " ++ escape (Value.object m).indented)]
    | .unrenderable reason => .error (.unrenderable reason)

def hostsNodes (title : String) (hosts : List String) : List LabelTree :=
  if hosts.isEmpty then [] else [.leaf .hosts (title ++ ": " ++ hostsText hosts)]

def backendNode (level : Int) (service : ServiceConfig) (endpoint : EndpointConfig)
    (backend : BackendConfig) : Except DumpFault LabelTree := do
  let method := if backend.method == "" then endpoint.method else backend.method
  let extra ← extraNodes level backend.extra
  pure (.node .backend ("backend " ++ escape method ++ " " ++ escape backend.urlPattern)
    (hostsNodes "hosts" (hostsFor service backend) ++ extra))

def backendNodes (level : Int) (service : ServiceConfig) (endpoint : EndpointConfig) :
    Except DumpFault (List LabelTree) :=
  if level < 2 then .ok [] else endpoint.backends.mapM (backendNode level service endpoint)

def endpointNode (level : Int) (service : ServiceConfig) (endpoint : EndpointConfig) :
    Except DumpFault LabelTree := do
  let timeout :=
    if endpoint.timeout == "" then []
    else [LabelTree.leaf .attribute ("timeout: " ++ escape endpoint.timeout)]
  let extra ← extraNodes level endpoint.extra
  let backends ← backendNodes level service endpoint
  pure (.node .endpoint ("[b]" ++ endpoint.method ++ "[/b] " ++ escape endpoint.path)
    (timeout ++ extra ++ backends))

def attributeNodes (service : ServiceConfig) : List LabelTree := [
  .leaf .attribute ("version: " ++ service.version.plain),
  .leaf .attribute s!"port: {service.port}",
  .leaf .attribute ("timeout: " ++ escape (orDash service.timeout)),
  .leaf .attribute ("debug endpoint: " ++ flagText service.debug),
  .leaf .attribute ("echo endpoint: " ++ flagText service.echo)]

def configTree (level : Int) (lead : String) (service : ServiceConfig) :
    Except DumpFault LabelTree := do
  let extra ← extraNodes level service.extra
  let endpoints ← service.endpoints.mapM (endpointNode level service)
  let count := s!"{service.endpoints.length} endpoint(s)"
  pure (.node .service (escape lead ++ "Service: [b]" ++ escape (orDash service.name) ++ "[/b]")
    (attributeNodes service ++ hostsNodes "default hosts" service.hosts ++ extra ++
      [.node .endpoints count endpoints]))

def dump (screen : Screen) (level : Int) (lead : String) (service : ServiceConfig) :
    Except (Failure DumpFault) String := do
  let tree ← (configTree level lead service).mapError .fault
  (tree.printed screen).mapError (·.map .markup)

end Preflight.Report

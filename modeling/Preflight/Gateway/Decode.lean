import Preflight.Gateway.Config
import Preflight.Json.Equality
import Preflight.Json.Show
import Preflight.Routing.Template
import Preflight.Text.Case

/-!
# Reading a configuration from JSON

A value is read member by member; the first member that cannot be read decides the fault. What is
missing has a default, names that are not known are passed over.
-/

namespace Preflight.Gateway

open Json Text

inductive ConfigFault
  | rootNotObject
  | unsupportedVersion (version : Value)
  | portNotInteger (type : String)
  | notObject (place type : String)
  | notList (place type : String)
  | notString (place type : String)
  | hostsNotStrings (place : String)
  | noPath
  | unsupportedMethod (method path : String)
  | noBackends (method path : String)
  | noUrlPattern (path : String)
  | undefinedParam (param urlPattern path : String)

def ConfigFault.message : ConfigFault → String
  | .rootNotObject => "configuration root must be an object"
  | .unsupportedVersion version =>
    s!"unsupported version: {version.plain} (want: {supportedVersion})"
  | .portNotInteger type => s!"port must be an integer, got {type}"
  | .notObject place type => s!"{place} must be an object, got {type}"
  | .notList place type => s!"{place} must be a list, got {type}"
  | .notString place type => s!"{place} must be a string, got {type}"
  | .hostsNotStrings place => s!"{place}.host must be a list of strings"
  | .noPath => "endpoint without path"
  | .unsupportedMethod method path => s!"unsupported method {method} for endpoint {path}"
  | .noBackends method path => s!"no backends defined for endpoint {method} {path}"
  | .noUrlPattern path => s!"backend of endpoint {path} without url_pattern"
  | .undefinedParam param urlPattern path =>
    s!"undefined output param '{param}' in backend {urlPattern} of endpoint {path}"

abbrev Reading := Except ConfigFault

def asObject (place : String) : Value → Reading Members
  | .object members => .ok members
  | v => .error (.notObject place v.typeName)

def listAt (node : Members) (name place : String) : Reading (List Value) :=
  match Members.get? node name with
  | none => .ok []
  | some (.array items) => .ok items
  | some v => .error (.notList s!"{place}.{name}" v.typeName)

def stringAt (node : Members) (name place default : String) : Reading String :=
  match Members.get? node name with
  | none => .ok default
  | some (.string s) => .ok s
  | some v => .error (.notString s!"{place}.{name}" v.typeName)

def strings? : List Value → Option (List String)
  | [] => some []
  | .string s :: rest => (strings? rest).map (s :: ·)
  | _ => none

def hostsAt (node : Members) (place : String) : Reading (List String) := do
  match strings? (← listAt node "host" place) with
  | some hosts => pure hosts
  | none => .error (.hostsNotStrings place)

def extraAt (node : Members) (place : String) : Reading Extra :=
  match Members.get? node "extra_config" with
  | none => .ok (.members [])
  | some v => (asObject s!"{place}.extra_config" v).map .members

def flagAt (node : Members) (name : String) : Bool :=
  ((Members.get? node name).map Value.isTruthy).getD false

def readBackend (path place : String) (v : Value) : Reading BackendConfig := do
  let node ← asObject place v
  if !Members.has node "url_pattern" then .error (.noUrlPattern path)
  else
    let urlPattern ← stringAt node "url_pattern" place ""
    match (Routing.params urlPattern).find? fun p => !(Routing.params path).contains p with
    | some param => .error (.undefinedParam param urlPattern path)
    | none =>
      let hosts ← hostsAt node place
      let method ← stringAt node "method" place ""
      let extra ← extraAt node place
      pure ⟨urlPattern, hosts, upper method, extra⟩

def readEach {α : Type} (read : String → Value → Reading α) (place : String) :
    Nat → List Value → Reading (List α)
  | _, [] => .ok []
  | i, v :: vs => do
    let first ← read s!"{place}[{i}]" v
    let rest ← readEach read place (i + 1) vs
    pure (first :: rest)

def readEndpoint (place : String) (v : Value) : Reading EndpointConfig := do
  let node ← asObject place v
  let path ← stringAt node "endpoint" place ""
  if path == "" then .error .noPath
  else
    let method := upper (← stringAt node "method" place defaultMethod)
    if !methods.contains method then .error (.unsupportedMethod method path)
    else
      let backends ← listAt node "backend" place
      if backends.isEmpty then .error (.noBackends method path)
      else
        let backends ← readEach (readBackend path) s!"{place}.backend" 0 backends
        let timeout ← stringAt node "timeout" place ""
        let extra ← extraAt node place
        pure ⟨path, method, backends, timeout, extra⟩

/-- The port of a service; zero and other values that count as not given mean the default. -/
def portAt (node : Members) : Reading Int :=
  match Members.get? node "port" with
  | none => .ok defaultPort
  | some v =>
    if !v.isTruthy then .ok defaultPort
    else match v with
      | .int port => .ok port
      | v => .error (.portNotInteger v.typeName)

def versionAt (node : Members) : Reading Value :=
  let version := (Members.get? node "version").getD .null
  if version.plainEq (.int supportedVersion) then .ok version
  else .error (.unsupportedVersion version)

def serviceConfig (v : Value) : Reading ServiceConfig :=
  match v with
  | .object node => do
    let version ← versionAt node
    let port ← portAt node
    let endpoints ← listAt node "endpoints" "service"
    let name ← stringAt node "name" "service" ""
    let hosts ← hostsAt node "service"
    let timeout ← stringAt node "timeout" "service" ""
    let endpoints ← readEach readEndpoint "endpoints" 0 endpoints
    let extra ← extraAt node "service"
    pure ⟨version, name, port, hosts, timeout, flagAt node "debug_endpoint",
      flagAt node "echo_endpoint", endpoints, extra⟩
  | _ => .error .rootNotObject

end Preflight.Gateway

import Preflight.Gateway.Method
import Preflight.Json.Value

/-!
# Gateway configurations

A service with its endpoints, each served by backends.
-/

namespace Preflight.Gateway

open Json

/-- A free section of a configuration: members of any kind, or something that has no text, with the
reason. -/
inductive Extra
  | members (m : Members)
  | unrenderable (reason : String)

def Extra.isEmpty : Extra → Bool
  | .members m => m.isEmpty
  | .unrenderable _ => false

/-- A server that an endpoint asks. Without hosts of its own it has those of the service, without a
method that of the endpoint. -/
structure BackendConfig where
  urlPattern : String
  hosts : List String
  method : String
  extra : Extra

/-- A path and method that the gateway answers. -/
structure EndpointConfig where
  path : String
  method : String
  backends : List BackendConfig
  timeout : String
  extra : Extra

/-- The configuration of a gateway. Its version equals the supported one, as a whole or a
floating-point number. -/
structure ServiceConfig where
  version : Value
  name : String
  port : Int
  hosts : List String
  timeout : String
  debug : Bool
  echo : Bool
  endpoints : List EndpointConfig
  extra : Extra

def supportedVersion : Int := 3

def defaultPort : Int := 8080

end Preflight.Gateway

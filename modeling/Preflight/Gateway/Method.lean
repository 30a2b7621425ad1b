/-!
# HTTP methods
-/

namespace Preflight.Gateway

def methods : List String := ["GET", "POST", "PUT", "PATCH", "DELETE", "HEAD", "OPTIONS"]

def defaultMethod : String := "GET"

/-- The methods a route for any method is registered under. -/
def anyMethods : List String := methods ++ ["CONNECT", "TRACE"]

end Preflight.Gateway

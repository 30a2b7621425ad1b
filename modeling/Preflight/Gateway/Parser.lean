import Preflight.Gateway.Decode
import Preflight.Gateway.Placeholder
import Preflight.Json.Reader
import Preflight.Mishap
import Preflight.Run
import Preflight.Source.FileTree

/-!
# Parsing configuration files

A file is read as UTF-8, its placeholders are replaced, and the result is decoded and read. The
parser keeps the text that it last read with success, so that it can be looked at again as it was.
-/

namespace Preflight.Gateway

open Json Source Text

inductive ParseFault
  | unreadable (path : String) (cause : FileFault)
  | undefinedVariable (name : String)
  | notJson (path : String) (kind : SyntaxFault) (place : Place)
  | config (fault : ConfigFault)

def ParseFault.message : ParseFault → String
  | .unreadable path cause => s!"'{path}': {cause.message}"
  | .undefinedVariable name => s!"undefined environment variable '{name}'"
  | .notJson path kind place => s!"'{path}': {kind.message}, line {place.line} column {place.column}"
  | .config fault => fault.message

abbrev Parsing (α : Type) := Run (Failure ParseFault) α

def decodeConfig (path : String) (text : List Char) : Except (Failure ParseFault) Value :=
  match decodeText text with
  | .ok v => .ok v
  | .error (.syntaxFault kind place) => .error (.fault (.notJson path kind place))
  | .error (.longInteger digits) => .error (.mishap (.longInteger (longIntegerMessage digits)))
  | .error (.undecodable bytes) => .error (.mishap (.undecodable bytes))

/-- The text of a file, each line break a single character. -/
def readText (read : Path → Except FileFault (List UInt8)) (path : Path) :
    Except (Failure ParseFault) (List Char) :=
  if Path.holdsNull path.text then .error (.mishap .nullByte)
  else match read path with
    | .error cause => .error (.fault (.unreadable path.text cause))
    | .ok bytes =>
      match decodeUtf8 bytes with
      | .ok text => .ok (unifyNewlines text)
      | .error bad => .error (.mishap (.undecodable bad))

/-- Reads a text with its placeholders replaced; gives the configuration and that text, which has to be one
that can be written. -/
def parseText (env : Environment) (path : String) (text : List Char) :
    Except (Failure ParseFault) (ServiceConfig × List Char) :=
  match renderText env text with
  | .error name => .error (.fault (.undefinedVariable name))
  | .ok rendered => do
    let v ← decodeConfig path (rendered.map CodePoint.shown)
    match serviceConfig v with
    | .error fault => .error (.fault (.config fault))
    | .ok config =>
      match plain rendered with
      | .ok text => pure (config, text)
      | .error signs => .error (.mishap (.unwritable signs))

def parsedMessage (path : Path) (config : ServiceConfig) : String :=
  s!"{path.text} parsed, {config.endpoints.length} endpoint(s)"

def parseFile (read : Path → Except FileFault (List UInt8)) (env : Environment) (path : Path) :
    Parsing (ServiceConfig × List Char) := do
  Run.emit (.read path)
  let parsed ← Run.ofExcept (do parseText env path.text (← readText read path))
  Run.log .debug (parsedMessage path parsed.1)
  pure parsed

/-- A parser with the bytes of the text it last read with success. -/
structure Parser where
  lastSource : Option (List UInt8)

def Parser.new : Parser := ⟨none⟩

inductive ContentFault
  | nothingParsed
  | unreadable (path : String) (cause : FileFault)

def ContentFault.message : ContentFault → String
  | .nothingParsed => "no configuration parsed"
  | .unreadable path cause => s!"'{path}': {cause.message}"

def Parser.source (parser : Parser) : Except ContentFault (List UInt8) :=
  match parser.lastSource with
  | some bytes => .ok bytes
  | none => .error .nothingParsed

/-- Parses a file. A failure makes the parser forget what it read before. -/
def Parser.parse (_ : Parser) (read : Path → Except FileFault (List UInt8)) (env : Environment)
    (path : Path) : Parser × Parsing ServiceConfig :=
  let parsed := parseFile read env path
  (⟨match parsed.result with
    | .ok (_, rendered) => some (utf8 rendered)
    | .error _ => none⟩, (·.1) <$> parsed)

end Preflight.Gateway

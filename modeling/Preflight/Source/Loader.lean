import Preflight.Json.Reader
import Preflight.Run
import Preflight.Source.Choice
import Preflight.Source.FileTree
import Preflight.Url.Basic

/-!
# Loading documents

A document is loaded from its URL by a transport chosen by the URL's scheme: read from a file or
fetched over HTTP. A response is closed whatever becomes of it, and its body is read only if the
status is 200.
-/

namespace Preflight.Source

open Json Text

/-- What a server says to a request. -/
inductive Reply
  | response (status : Int) (body : List UInt8)
  | failed (reason : String)

/-- The outside world as loading sees it: where a path leads to, in names from the root, what can be read
and what can be fetched. -/
structure World where
  place : SystemText → Except Mishap (List SystemText)
  read : Path → Except FileFault (List UInt8)
  fetch : String → Reply

/-- How the documents of a scheme are got. -/
inductive Transport
  | file
  | http (timeout : Number)
  deriving DecidableEq, Repr

abbrev Loader := Table Transport

def requestTimeout : Number := .int 10

def defaultLoader : Loader :=
  [("file", .file), ("http", .http requestTimeout), ("https", .http requestTimeout)]

inductive LoadFault
  | unsupportedScheme (scheme url : String)
  | unreadable (url : String) (cause : FileFault)
  | unavailable (url reason : String)
  | badStatus (url : String) (status : Int)
  | malformed (url : String) (cause : Malformed)
  deriving DecidableEq, Repr

def LoadFault.message : LoadFault → String
  | .unsupportedScheme scheme url => s!"no loader for scheme '{scheme}' ({url})"
  | .unreadable url cause => s!"{url}: {cause.message}"
  | .unavailable url reason => s!"{url}: {reason}"
  | .badStatus url status => s!"{url} returned status code {status}"
  | .malformed url cause => s!"{url} is not a valid JSON document: {cause.message}"

abbrev Loading (α : Type) := Run (Failure LoadFault) α

def splitOrFail (url : String) : Loading Url.Parts :=
  match Url.splitUrl url.toList with
  | .ok parts => .ok parts
  | .error fault => .fail (.mishap (.badUrl fault))

/-- A decoded document, or the fault of the document at a URL. -/
def decoded (url : String) : Except Malformed Value → Loading Value
  | .ok v => .ok v
  | .error cause => .fail (.fault (.malformed url cause))

/-- The path of the file that a URL names; host, query and fragment are not looked at. -/
def filePath (parts : Url.Parts) : Path :=
  Path.ofString (String.ofList (percentDecode parts.path))

def loadFile (world : World) (url : String) (parts : Url.Parts) : Loading Value := do
  let path := filePath parts
  Run.log .debug s!"reading schema from {path.text}"
  Run.emit (.read path)
  if Path.holdsNull path.text then Run.fail (.mishap .nullByte)
  else match world.read path with
    | .ok bytes => decoded url (decodeBytes bytes)
    | .error cause => Run.fail (.fault (.unreadable url cause))

def loadHttp (world : World) (timeout : Number) (url : String) : Loading Value := do
  Run.log .debug s!"fetching schema {url}"
  match world.fetch url with
  | .failed reason =>
    Run.emit (.request ⟨url, timeout, false, false⟩)
    Run.fail (.fault (.unavailable url reason))
  | .response status body =>
    if status = 200 then
      Run.emit (.request ⟨url, timeout, true, true⟩)
      decoded url (decodeBytes body)
    else
      Run.emit (.request ⟨url, timeout, false, true⟩)
      Run.fail (.fault (.badStatus url status))

def load (world : World) (loader : Loader) (url : String) : Loading Value := do
  let parts ← splitOrFail url
  let scheme := String.ofList parts.scheme
  match loader.lookup scheme with
  | some .file => loadFile world url parts
  | some (.http timeout) => loadHttp world timeout url
  | none => Run.fail (.fault (.unsupportedScheme scheme url))

/-- The URL of the file at a location; `none` if the location is a URL, which one with a scheme of two
letters or more is. -/
def fileUrl? (world : World) (location : SystemText) : Except Mishap (Option String) :=
  match Url.splitUrl (location.map CodePoint.shown) with
  | .error fault => .error (.badUrl fault)
  | .ok parts =>
    if 1 < parts.scheme.length then .ok none
    else if location.contains (.char '\x00') then .error .nullByte
    else match world.place location with
      | .error mishap => .error mishap
      | .ok names =>
        match systemBytes (placeText names) with
        | .ok bytes => .ok (some (Path.fileUrl bytes))
        | .error signs => .error (.unwritable signs)

def toUrl (world : World) (location : String) : Except Mishap String :=
  (fileUrl? world (systemText location.toList)).map (·.getD location)

/-- The URL of a schema location, however the system gives it. -/
def urlAt (world : World) (location : SystemText) : Except Mishap SystemText :=
  (fileUrl? world location).map fun url? => (url?.map (systemText ·.toList)).getD location

/-- The document with a URL, and the URL, which it is known by. -/
def loadFrom (world : World) (loader : Loader) (url : String) : Loading (String × Value) := do
  let v ← load world loader url
  pure (url, v)

/-- The schema of a source, with the URI it is known by. The bundled schema is decoded in place. -/
def loadSchema (world : World) (loader : Loader) : SchemaSource → Loading (String × Value)
  | .embedded text => do
    let v ← decoded embeddedUri (decodeText text.toList)
    pure (embeddedUri, v)
  | .custom location | .online location =>
    match toUrl world location with
    | .error mishap => Run.fail (.mishap mishap)
    | .ok url => loadFrom world loader url

/-- The schema at a location, however the system gives it; `none` for a URL that is no plain text. -/
def loadLocation (world : World) (loader : Loader) (location : SystemText) :
    Option (Loading (String × Value)) :=
  match urlAt world location with
  | .error mishap => some (Run.fail (.mishap mishap))
  | .ok url => (plain url).toOption.map fun chars => loadFrom world loader (String.ofList chars)

end Preflight.Source

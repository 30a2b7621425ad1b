import Preflight.Schema.Evaluation
import Preflight.Schema.MetaSchema
import Preflight.Schema.Violation

/-!
# Compiled schemas

A schema document is checked against the meta-schema of its dialect before it is used. If it has no
identifier of its own and came from somewhere, that location becomes its identifier, so that relative
references start there. Compiled, it says of a value which violations it finds.
-/

namespace Preflight.Schema

open Json Source

inductive SchemaFault
  | notASchema (uri type : String)
  | invalid (uri location keyword message : String)
  | unresolved (uri : String) (withKind : Bool) (fault : ReferenceFault)

namespace SchemaFault

def message : SchemaFault → String
  | .notASchema uri type => s!"{uri}: schema must be an object or a boolean, got {type}"
  | .invalid uri location keyword message =>
    s!"{uri} is not a valid schema: at '{location}' [{keyword}] {message}"
  | .unresolved uri withKind fault =>
    let kind := if withKind then s!"{fault.kind}: " else ""
    s!"{uri}: {kind}{fault.text}"

def location : SchemaFault → String
  | .invalid _ location _ _ => location
  | _ => ""

def keyword : SchemaFault → String
  | .invalid _ _ keyword _ => keyword
  | .unresolved .. => "$ref"
  | .notASchema .. => ""

end SchemaFault

inductive LintFault
  | schema (fault : SchemaFault)
  | violations (uri : String) (violations : List Violation)

def violationsMessage (uri : String) (violations : List Violation) : String :=
  "\n".intercalate (s!"jsonschema validation failed with '{uri}'" ::
    violations.map fun v => s!"- {v.text}")

/-- Whether a name can stand behind a dot in a path; a line break may follow it. -/
def isPlainName (name : List Char) : Bool :=
  let name := match name.getLast? with
    | some '\n' => name.dropLast
    | _ => name
  match name with
  | c :: rest => c.isAlpha && rest.all fun c => c.isAlphanum || c == '_'
  | [] => false

def locationStep : Step → List Char
  | .index n => '[' :: (toString n).toList ++ [']']
  | .name s =>
    if isPlainName s.toList then '.' :: s.toList
    else
      let escaped := s.toList.flatMap fun c =>
        if c == '\\' || c == '\x27' then [ '\\', c] else [c]
      '[' :: '\x27' :: escaped ++ [ '\x27', ']']

def locationText (steps : List Step) : String := String.ofList ('$' :: steps.flatMap locationStep)

/-- A schema that passed its check. -/
structure Compiled where
  uri : String
  dialect : Dialect
  document : Value
  registry : Registry

def fetchNothing : Fetch := fun url => .fail (.fault (.unavailable url ""))

/-- How unknown documents are got with a loader, or without one. -/
def fetchWith (world : World) : Option Loader → Fetch
  | some loader => load world loader
  | none => fetchNothing

/-- The end of a run for a reason that stopped an evaluation. -/
def Stop.toFailure (uri : String) : Stop → Failure SchemaFault
  | .unresolved withKind fault => .fault (.unresolved uri withKind fault)
  | .mishap m => .mishap m

def failOnUrl {ε α : Type} : Except UrlFault α → Run (Failure ε) α
  | .ok a => .ok a
  | .error fault => .fail (.mishap (.badUrl fault))

/-- Whether a text has a colon with two slashes, as locations with a host have. -/
def looksAbsolute : List Char → Bool
  | [] => false
  | ':' :: '/' :: '/' :: _ => true
  | _ :: s => looksAbsolute s

/-- The document with its location as identifier, if it has none of its own and the location is a
URL. -/
def anchored (uri : String) : Value → Value
  | .object members =>
    if !Members.has members "$id" && looksAbsolute uri.toList then
      .object (members ++ [("$id", .string uri)])
    else .object members
  | v => v

/-- The first thing that a meta-schema does not allow in a document. -/
def firstObjection (d : Dialect) (document : Value) : Search (Option Finding) :=
  (evaluate fetchNothing true MetaSchema.registry d (MetaSchema.root d) document).first?

/-- Checks a schema document and makes it ready for use under a URI. -/
def compile (uri : String) (document : Value) : Run (Failure SchemaFault) Compiled := do
  if !Dialect.isSchema document then
    Run.fail (.fault (.notASchema uri document.typeName))
  else
    let dialect ← failOnUrl (Dialect.evaluating .usual document)
    match ← (firstObjection dialect document).mapError (Stop.toFailure uri) with
    | some x =>
      Run.fail (.fault (.invalid uri (locationText x.valuePath) (x.keyword.getD "None") x.message))
    | none =>
      let document := anchored uri document
      let registry ← failOnUrl (Registry.empty.add uri (.ofDocument .usual document)).crawl
      Run.log .debug s!"schema {uri} compiled with {dialect.label}"
      pure ⟨uri, dialect, document, registry⟩

def Compiled.findings (schema : Compiled) (fetch : Fetch) (v : Value) : Search (List Finding) :=
  (evaluate fetch false (MetaSchema.registry.combine schema.registry) schema.dialect
    schema.document v).findings

def Compiled.validate (schema : Compiled) (fetch : Fetch) (v : Value) :
    Run (Failure LintFault) Unit := do
  let findings ← (schema.findings fetch v).mapError fun stop =>
    (stop.toFailure schema.uri).map .schema
  match findings with
  | [] => pure ()
  | _ => Run.fail (.fault (.violations schema.uri (reported findings)))

end Preflight.Schema

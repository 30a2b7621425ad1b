import Preflight.Text.Split

/-!
# Choosing the schema

One schema is used for a check: the one whose place the operator names, the hosted one of the
running release line, or the bundled one. The hosted schema also stands in where none is bundled.
-/

namespace Preflight.Source

open Text

def embeddedUri : String := "schema.json"

/-- Where the schema of a check comes from. -/
inductive SchemaSource
  | custom (location : String)
  | online (location : String)
  | embedded (text : String)
  deriving DecidableEq, Repr

def SchemaSource.describe : SchemaSource → String
  | .custom location => location
  | .online location => location
  | .embedded _ => s!"{embeddedUri} (embedded)"

/-- The first two dot-separated parts of a version; the whole version if it has fewer. -/
def versionMinor (version : String) : String :=
  match splitString '.' version with
  | major :: minor :: _ => s!"{major}.{minor}"
  | _ => version

/-- The address of the hosted schema of a version's release line. -/
def onlineSchemaUrl (version : String) : String :=
  s!"https://www.krakend.io/schema/v{versionMinor version}/krakend.json"

/-- The options name a schema and ask for the hosted one as well. -/
inductive SourceConflict
  | schemaAndOnline
  deriving DecidableEq, Repr

def SourceConflict.message : SourceConflict → String
  | .schemaAndOnline => "--schema and --online"

/-- Picks the source: `custom` may be empty, and so may be or lack the bundled text. -/
def resolveSource (custom : String) (online : Bool) (embedded : Option String) (version : String) :
    Except SourceConflict SchemaSource :=
  if custom != "" && online then .error .schemaAndOnline
  else
    match embedded with
    | some text =>
      if online || text == "" then .ok (.online (onlineSchemaUrl version))
      else if custom != "" then .ok (.custom custom)
      else .ok (.embedded text)
    | none => .ok (.online (onlineSchemaUrl version))

end Preflight.Source

import Preflight.Schema.Dialect

/-!
# Registries of schema resources

A registry knows documents and their identified subschemas by URI, and anchors by the URI of their
resource. A document is first known under one URI only; crawling it adds the identifiers and anchors
found inside. What was added last counts.
-/

namespace Preflight.Schema

open Json

/-- A schema document, or a part of one, with the dialect of its identifiers. -/
structure Resource where
  dialect : Dialect
  contents : Value

namespace Resource

/-- A document as a resource, in the dialect it names or else in that of its surroundings. -/
def ofDocument (surroundings : Dialect) (document : Value) : Resource :=
  ⟨Dialect.identifying surroundings document, document⟩

def id? (r : Resource) : Option String := r.dialect.identifier? r.contents

def parts (r : Resource) : List Resource :=
  (r.dialect.subschemas r.contents).map (ofDocument r.dialect)

end Resource

/-- A named place in a resource. -/
structure Anchor where
  resource : Resource
  dynamic : Bool

/-- Resources by URI, anchors by URI and name, and the documents that were not crawled yet. -/
structure Registry where
  resources : List (String × Resource)
  anchors : List ((String × String) × Anchor)
  uncrawled : List (String × Resource)

mutual

def nesting : Value → Nat
  | .array items => nestingOfItems items + 1
  | .object members => nestingOfMembers members + 1
  | _ => 0

def nestingOfItems : List Value → Nat
  | [] => 0
  | v :: vs => max (nesting v) (nestingOfItems vs)

def nestingOfMembers : Members → Nat
  | [] => 0
  | (_, v) :: rest => max (nesting v) (nestingOfMembers rest)

end

namespace Registry

def empty : Registry := ⟨[], [], []⟩

def add (registry : Registry) (uri : String) (r : Resource) : Registry :=
  let uri := Dialect.withoutHash uri
  { registry with
    resources := (uri, r) :: registry.resources
    uncrawled := (uri, r) :: registry.uncrawled }

/-- The base URI inside a resource found at `base`. -/
def baseInside (base : String) (r : Resource) : Except UrlFault String :=
  match r.id? with
  | some id => Url.join base id
  | none => .ok base

/-- Adds what a resource at a URI and its parts are known by; the parts' nesting bounds the depth. -/
def enter : Nat → String → Resource → Registry → Except UrlFault Registry
  | 0, _, _, registry => .ok registry
  | depth + 1, base, r, registry => do
    let uri ← baseInside base r
    let resources := if r.id?.isSome then (uri, r) :: registry.resources else registry.resources
    let anchors := (r.dialect.anchors r.contents).foldl
      (fun anchors (name, dynamic) => ((uri, name), ⟨r, dynamic⟩) :: anchors) registry.anchors
    r.parts.reverse.foldlM (fun registry part => enter depth uri part registry)
      { registry with resources, anchors }

def crawl (registry : Registry) : Except UrlFault Registry := do
  let crawled ← registry.uncrawled.foldlM
    (fun registry (uri, r) => enter (nesting r.contents + 1) uri r registry)
    { registry with uncrawled := [] }
  pure crawled

def resource? (registry : Registry) (uri : String) : Option Resource :=
  registry.resources.lookup uri

def anchor? (registry : Registry) (uri name : String) : Option Anchor :=
  registry.anchors.lookup (uri, name)

/-- All that two registries know; the second one counts where both know something. -/
def combine (first second : Registry) : Registry :=
  ⟨second.resources ++ first.resources, second.anchors ++ first.anchors,
    second.uncrawled ++ first.uncrawled⟩

end Registry

end Preflight.Schema

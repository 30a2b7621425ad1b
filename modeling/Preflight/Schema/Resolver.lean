import Preflight.Json.Show
import Preflight.Schema.Registry
import Preflight.Source.Loader
import Preflight.Text.Integer

/-!
# Resolving references

A resolver knows the base URI that references at a place of a schema are joined to, the registry of
what is known, and the bases it came through, most recent first. A document that is not known is
fetched; from then on the resolver that fetched it knows it.
-/

namespace Preflight.Schema

open Json Source Text

inductive ReferenceFault
  | unknown (ref : String)
  | nowhere (pointer : String) (document : Value)
  | noAnchor (name : String) (document : Value)
  | badAnchor (name : String)

namespace ReferenceFault

def kind : ReferenceFault → String
  | .unknown _ => "Unresolvable"
  | .nowhere .. => "PointerToNowhere"
  | .noAnchor .. => "NoSuchAnchor"
  | .badAnchor _ => "InvalidAnchor"

def text : ReferenceFault → String
  | .unknown ref => ref
  | .nowhere pointer document =>
    s!"{quoted pointer} does not exist within {document.show}" ++
      if pointer == "/" then
        ". The pointer '/' is a valid JSON Pointer but it points to an empty string property ''. " ++
          "If you intended to point to the entire resource, you should use '#'."
      else ""
  | .noAnchor name document => s!"{quoted name} does not exist within {document.show}"
  | .badAnchor name =>
    s!"'#{name}' is not a valid anchor, neither as a plain name anchor nor as a JSON Pointer. " ++
      s!"You may have intended to use '#/{name}', as the slash is required *before each segment* " ++
      "of a JSON pointer."

end ReferenceFault

/-- Why an evaluation ends early: a reference that leads nowhere, told with its kind or without it,
or a mishap. -/
inductive Stop
  | unresolved (withKind : Bool) (fault : ReferenceFault)
  | mishap (m : Mishap)

abbrev Search (α : Type) := Run Stop α

abbrev Fetch := String → Loading Value

def Search.ofUrl {α : Type} : Except UrlFault α → Search α
  | .ok a => .ok a
  | .error fault => .fail (.mishap (.badUrl fault))

/-- A place of a schema as references see it. -/
structure Resolver where
  registry : Registry
  base : String
  scope : List String

structure Resolved where
  contents : Value
  resolver : Resolver

namespace Resolver

def ofRoot (registry : Registry) (r : Resource) : Resolver :=
  let uri := r.id?.getD ""
  ⟨registry.add uri r, uri, []⟩

def moveTo (resolver : Resolver) (registry : Registry) (base : String) : Resolver :=
  let keeps := resolver.base != "" && (resolver.scope.isEmpty || base != resolver.base)
  ⟨registry, base, if keeps then resolver.base :: resolver.scope else resolver.scope⟩

/-- The resolver inside a subschema: an identifier there changes the base. -/
def enter (resolver : Resolver) (r : Resource) : Search Resolver :=
  match r.id? with
  | none => pure resolver
  | some id => do
    let base ← Search.ofUrl (Url.join resolver.base id)
    pure { resolver with base }

/-- The resource at a URI, with the registry that knows it. -/
def retrieve (fetch : Fetch) (registry : Registry) (ref uri : String) :
    Search (Registry × Resource) :=
  match registry.resource? uri with
  | some r => pure (registry, r)
  | none => do
    let registry ← Search.ofUrl registry.crawl
    match registry.resource? uri with
    | some r => pure (registry, r)
    | none =>
      let document ← (fetch uri).mapError fun _ => Stop.unresolved true (.unknown ref)
      let r := Resource.ofDocument .usual document
      pure (registry.add uri r, r)

def pointerSteps (pointer : String) : List String :=
  splitString '/' (String.ofList (percentDecode (pointer.toList.drop 1)))

/-- A step of a pointer as a name: `~1` stands for a slash and `~0` for a tilde. -/
def unescapeStep : List Char → List Char
  | '~' :: '1' :: s => '/' :: unescapeStep s
  | '~' :: '0' :: s => '~' :: unescapeStep s
  | c :: s => c :: unescapeStep s
  | [] => []

/-- The item at an index, counted from the end if the index is negative. -/
def itemAt? {α : Type} (items : List α) (index : Int) : Option α :=
  if index < 0 then
    if (items.length : Int) + index < 0 then none else items[((items.length : Int) + index).toNat]?
  else items[index.toNat]?

/-- One step of a pointer into a value; `none` when nothing is there. -/
def stepInto (v : Value) (step : String) : Search (Option Value) :=
  let byIndex (items : List Value) : Search (Option Value) :=
    match readInteger? step with
    | some index => pure (itemAt? items index)
    | none => .fail (.mishap (.notAnInteger step))
  match v with
  | .array items => byIndex items
  | .string s => byIndex (s.toList.map fun c => .string (String.singleton c))
  | .object members => pure (Members.get? members (String.ofList (unescapeStep step.toList)))
  | v => .fail (.mishap (.wrongType s!"'{v.typeName}' object is not subscriptable"))

/-- Follows the steps of a pointer. `walked` are the steps since the last schema whose identifier
counted. -/
def follow (r : Resource) (pointer : String) :
    Resolver → List String → Value → List String → Search Resolved
  | resolver, _, contents, [] => pure ⟨contents, resolver⟩
  | resolver, walked, contents, step :: steps => do
    match ← stepInto contents step with
    | none => .fail (.unresolved true (.nowhere pointer r.contents))
    | some target =>
      let name := match contents with
        | .object _ => String.ofList (unescapeStep step.toList)
        | _ => ""
      let walked := walked ++ [name]
      let part : Resource := ⟨r.dialect, target⟩
      if r.dialect.leadsToSchema target walked && part.id?.isSome then
        let resolver ← resolver.enter part
        follow r pointer resolver [] target steps
      else follow r pointer resolver walked target steps

/-- The anchor of a name in the resource at a URI, with the registry that knows it. -/
def findAnchor (registry : Registry) (uri name : String) : Search (Registry × Anchor) :=
  match registry.anchor? uri name with
  | some anchor => pure (registry, anchor)
  | none => do
    let crawled ← Search.ofUrl registry.crawl
    match crawled.anchor? uri name with
    | some anchor => pure (crawled, anchor)
    | none =>
      match registry.resource? uri with
      | none => .fail (.unresolved true (.unknown uri))
      | some r =>
        match r.id?.bind (crawled.anchor? · name) with
        | some anchor => pure (crawled, anchor)
        | none =>
          if name.toList.contains '/' then .fail (.unresolved true (.badAnchor name))
          else .fail (.unresolved true (.noAnchor name r.contents))

/-- The resource of a dynamic anchor: that of the outermost base in scope with a dynamic anchor of
the name. -/
def outermost (registry : Registry) (name : String) (r : Resource) : List String → Search Resource
  | [] => pure r
  | uri :: uris =>
    let found := findAnchor registry uri name
    match found.result with
    | .ok (_, anchor) => outermost registry name (if anchor.dynamic then anchor.resource else r) uris
    | .error (.unresolved _ (.noAnchor ..)) => outermost registry name r uris
    | .error stop => .fail stop

def resolveAnchor (resolver : Resolver) (name : String) (anchor : Anchor) : Search Resolved :=
  if anchor.dynamic then do
    let r ← outermost resolver.registry name anchor.resource resolver.scope
    let inside ← resolver.enter r
    pure ⟨r.contents, inside⟩
  else pure ⟨anchor.resource.contents, resolver⟩

def target (resolver : Resolver) (ref : String) : Search (String × String) :=
  match ref.toList with
  | '#' :: fragment => pure (resolver.base, String.ofList fragment)
  | _ => do
    let uri ← Search.ofUrl (Url.join resolver.base ref)
    Search.ofUrl (Url.cutFragment uri)

/-- What a reference leads to: with a pointer as fragment a place in the document, with a name an
anchor, else the whole document. -/
def lookup (fetch : Fetch) (resolver : Resolver) (ref : String) : Search Resolved := do
  let (uri, fragment) ← resolver.target ref
  let (registry, r) ← retrieve fetch resolver.registry ref uri
  match fragment.toList with
  | [] => pure ⟨r.contents, resolver.moveTo registry uri⟩
  | '/' :: _ => follow r fragment (resolver.moveTo registry uri) [] r.contents (pointerSteps fragment)
  | _ =>
    let (registry, anchor) ← findAnchor registry uri fragment
    resolveAnchor (resolver.moveTo registry uri) fragment anchor

/-- Whether a schema asks references to itself to be taken up by the schemas around it. -/
def isRecursive (schema : Value) : Bool := ((schema.get? "$recursiveAnchor").map Value.isTruthy).getD false

/-- The outermost of the documents in scope that follow each other with a recursive anchor. -/
def outermostRecursive (fetch : Fetch) (resolver : Resolver) (found : Resolved) :
    List String → Search Resolved
  | [] => pure found
  | uri :: uris => do
    let next ← lookup fetch resolver uri
    if isRecursive next.contents then outermostRecursive fetch resolver next uris else pure found

def lookupRecursive (fetch : Fetch) (resolver : Resolver) : Search Resolved := do
  let found ← lookup fetch resolver "#"
  if isRecursive found.contents then outermostRecursive fetch resolver found resolver.scope
  else pure found

end Resolver

end Preflight.Schema

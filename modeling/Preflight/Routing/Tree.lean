import Preflight.Table
import Preflight.Text.Split

/-!
# Route trees

The routes of one HTTP method as a tree of path segments. A segment is static, a parameter `:name`
or, at the end of a path, a catch-all `*name`. A node has any number of static children and at most
one parameter child and one catch-all child; a catch-all excludes the other two. Adding a path that
cannot live beside the ones there is refused, but the nodes made on the way to the refusal stay.
-/

namespace Preflight.Routing

open Text

inductive RouteConflict
  | notRooted (path : String)
  | severalWildcards (segment path : String)
  | wildcardInside (segment path : String)
  | unnamedWildcard (path : String)
  | catchAllInside (path : String)
  | catchAllOverChildren (segment path : String)
  | otherWildcard (segment path existing : String)
  | taken (path : String)
  deriving DecidableEq, Repr

def RouteConflict.message : RouteConflict → String
  | .notRooted path => s!"path must begin with '/' in path '{path}'"
  | .severalWildcards segment path =>
    s!"only one wildcard per path segment is allowed, has: '{segment}' in path '{path}'"
  | .wildcardInside segment path =>
    s!"wildcard must start the segment '{segment}' in path '{path}'"
  | .unnamedWildcard path =>
    s!"wildcards must be named with a non-empty name in path '{path}'"
  | .catchAllInside path =>
    s!"catch-all routes are only allowed at the end of the path in path '{path}'"
  | .catchAllOverChildren segment path =>
    s!"catch-all wildcard '{segment}' in new path '{path}' conflicts with existing children"
  | .otherWildcard segment path existing =>
    s!"'{segment}' in new path '{path}' conflicts with existing wildcard '{existing}'"
  | .taken path => s!"handlers are already registered for path '{path}'"

inductive Segment
  | static (text : String)
  | param (name : String)
  | catchAll (name : String)
  deriving DecidableEq, Repr

def Segment.text : Segment → String
  | .static text => text
  | .param name => ":" ++ name
  | .catchAll name => "*" ++ name

def isWildcard (c : Char) : Bool := c = ':' || c = '*'

/-- Reads a segment of a path: at most one wildcard, which starts it and is named. -/
def Segment.ofText (path text : String) : Except RouteConflict Segment :=
  match text.toList, text.toList.countP isWildcard with
  | _, 0 => .ok (.static text)
  | c :: name, 1 =>
    if isWildcard c then
      if name = [] then .error (.unnamedWildcard path)
      else if c = ':' then .ok (.param (String.ofList name))
      else .ok (.catchAll (String.ofList name))
    else .error (.wildcardInside text path)
  | _, _ => .error (.severalWildcards text path)

/-- A node of a route tree: the handler of the path that ends here and the children. -/
structure Node (η : Type) where
  handler : Option η
  statics : List (String × Node η)
  param : Option (String × Node η)
  catchAll : Option (String × η)

namespace Node

variable {η : Type}

def empty : Node η := ⟨none, [], none, none⟩

def staticChild (node : Node η) (text : String) : Node η :=
  (node.statics.lookup text).getD empty

def wildcard (node : Node η) : Option Segment :=
  match node.param, node.catchAll with
  | some (name, _), _ => some (.param name)
  | none, some (name, _) => some (.catchAll name)
  | none, none => none

/-- Adds a path below a node; the node comes back with what was made before any refusal. -/
def add (path : String) (handler : η) : List String → Node η → Node η × Except RouteConflict Unit
  | [], node =>
    match node.handler with
    | some _ => (node, .error (.taken path))
    | none => ({ node with handler := some handler }, .ok ())
  | text :: rest, node =>
    match Segment.ofText path text with
    | .error conflict => (node, .error conflict)
    | .ok (.catchAll name) =>
      if rest ≠ [] then (node, .error (.catchAllInside path))
      else if !node.statics.isEmpty || node.param.isSome then
        (node, .error (.catchAllOverChildren text path))
      else match node.catchAll with
        | none => ({ node with catchAll := some (name, handler) }, .ok ())
        | some (existing, _) =>
          if existing = name then (node, .error (.taken path))
          else (node, .error (.otherWildcard text path (Segment.catchAll existing).text))
    | .ok (.param name) =>
      match node.param, node.catchAll with
      | none, some (existing, _) =>
        (node, .error (.otherWildcard text path (Segment.catchAll existing).text))
      | none, none =>
        let (child, outcome) := add path handler rest empty
        ({ node with param := some (name, child) }, outcome)
      | some (existing, child), _ =>
        if existing = name then
          let (child, outcome) := add path handler rest child
          ({ node with param := some (name, child) }, outcome)
        else (node, .error (.otherWildcard text path (Segment.param existing).text))
    | .ok (.static _) =>
      match node.catchAll with
      | some (existing, _) =>
        (node, .error (.otherWildcard text path (Segment.catchAll existing).text))
      | none =>
        let (child, outcome) := add path handler rest (node.staticChild text)
        ({ node with statics := Table.put node.statics text child }, outcome)

end Node

def segments? (path : String) : Option (List String) :=
  match path.toList with
  | '/' :: rest => some ((split '/' rest).map String.ofList)
  | _ => none

abbrev RouteTree (η : Type) := Node η

/-- Adds a path to a tree; the tree comes back with what was made before any refusal. -/
def RouteTree.add {η : Type} (tree : RouteTree η) (path : String) (handler : η) :
    RouteTree η × Except RouteConflict Unit :=
  match segments? path with
  | none => (tree, .error (.notRooted path))
  | some segments => Node.add path handler segments tree

end Preflight.Routing

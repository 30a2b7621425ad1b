import Preflight.Schema.Descent

/-!
# What a schema has evaluated

The names and the items of a value that some keyword of a schema, or of a schema applied beside it,
has looked at. `unevaluatedProperties` and `unevaluatedItems` are about the others.
-/

namespace Preflight.Schema

open Json

namespace Evaluator

variable (e : Evaluator)

def filterSearch {α : Type} (test : α → Search Bool) : List α → Search (List α)
  | [] => pure []
  | a :: as => do
    let passes ← test a
    let rest ← filterSearch test as
    pure (if passes then a :: rest else rest)

/-- Whether a value is valid under a subschema, with the base of references moved into it. -/
def validBelow (frame : Frame) (schema target : Value) : Search Bool :=
  (e.descendHere frame schema target).isClean

def referred (frame : Frame) (found : Search Resolved) : Search (Frame × Value) := do
  let found ← found.mapError Stop.withoutKind
  let inner ← inside frame found.resolver found.contents
  pure (inner, found.contents)

/-- The schemas that the references of a schema lead to, in the dialects that look through them. -/
def referredAll (d : Dialect) (frame : Frame) (schema : Members) :
    List (Search (Frame × Value)) :=
  let byKeyword (keyword : String) : List (Search (Frame × Value)) :=
    match Members.get? schema keyword with
    | some (.string ref) => [referred frame (frame.resolver.lookup e.fetch ref)]
    | _ => []
  byKeyword "$ref" ++
    if d = .draft2019 then
      if Members.has schema "$recursiveRef" then
        [referred frame (frame.resolver.lookupRecursive e.fetch)]
      else []
    else byKeyword "$dynamicRef"

/-- The members of `allOf`, `oneOf` and `anyOf`. -/
def alternatives (keywords : List String) (schema : Members) : List Value :=
  keywords.flatMap fun keyword =>
    match Members.get? schema keyword with
    | some (.array schemas) => schemas
    | _ => []

/-- The subschemas of `if`, `then` and `else` that apply to a value. -/
def conditional (frame : Frame) (schema : Members) (target : Value) : Search (List Value) :=
  match Members.get? schema "if" with
  | none => pure []
  | some condition => do
    if ← e.probe frame condition target then
      pure (condition :: (Members.get? schema "then").toList)
    else pure (Members.get? schema "else").toList

/-- The results of a search for each element, one after another. -/
def collect {α β : Type} (f : α → Search (List β)) : List α → Search (List β)
  | [] => pure []
  | a :: as => do
    let first ← f a
    let rest ← collect f as
    pure (first ++ rest)

/-- Names that match one of the patterns of `patternProperties`. -/
def matchedNames (schema : Members) (names : List String) : Search (List String) :=
  match Members.get? schema "patternProperties" with
  | some (.object patterns) =>
    collect (fun name => collect (fun pattern => do
      let found ← Run.ofExcept ((patternFound pattern name).mapError Stop.mishap)
      pure (if found then [name] else [])) (Members.names patterns)) names
  | _ => pure []

/-- Names of an object that `properties` and its neighbours look at. In draft 2019-09 a keyword set to
true looks at all names, and one set to an object at those it has itself. -/
def directNames (d : Dialect) (frame : Frame) (schema members : Members) :
    Search (List String) :=
  let own (keyword : String) : List String :=
    match Members.get? schema keyword with
    | some (.object names) => (Members.names names).filter (Members.has members)
    | _ => []
  if d = .draft2019 then
    pure (["properties", "additionalProperties", "unevaluatedProperties"].flatMap fun keyword =>
      match Members.get? schema keyword with
      | some (.bool true) => Members.names members
      | _ => own keyword)
  else do
    let valid ← collect (fun keyword =>
      match Members.get? schema keyword with
      | some sub => do
        let valid ← filterSearch (fun (m : String × Value) => e.validBelow frame sub m.2) members
        pure (valid.map (·.1))
      | none => pure []) ["additionalProperties", "unevaluatedProperties"]
    pure (own "properties" ++ valid)

/-- The subschemas of `dependentSchemas` whose property an object has. -/
def dependent (schema members : Members) : List Value :=
  match Members.get? schema "dependentSchemas" with
  | some (.object table) => (table.filter fun m => Members.has members m.1).map (·.2)
  | _ => []

/-- The names of an object that a schema has evaluated, as a dialect counts them. References may go
round in a circle, so their depth is bounded. -/
def evaluatedNames (d : Dialect) : Nat → Frame → Value → Members → Search (List String)
  | 0, _, _, _ => .fail (.mishap .endless)
  | fuel + 1, frame, .object schema, members => do
    let target := Value.object members
    let here (sub : Value) := evaluatedNames d fuel frame sub members
    let referred ← collect (fun (found : Search (Frame × Value)) => do
      let (inner, sub) ← found
      evaluatedNames d fuel inner sub members) (e.referredAll d frame schema)
    let direct ← e.directNames d frame schema members
    let matched ← matchedNames schema (Members.names members)
    let dependent ← collect here (dependent schema members)
    let alternative ← collect (fun sub => do
      if ← e.validBelow frame sub target then here sub else pure [])
      (alternatives ["allOf", "oneOf", "anyOf"] schema)
    let conditional ← e.conditional frame schema target
    let chosen ← collect here conditional
    pure (referred ++ direct ++ matched ++ dependent ++ alternative ++ chosen)
  | _ + 1, _, _, _ => pure []

/-- Indexes of items that `items` and its neighbours look at, or `none` for all. -/
def directItems (d : Dialect) (schema : Members) : Except Mishap (Option Nat) :=
  if d = .draft2019 then
    match Members.get? schema "items" with
    | none => .ok (some 0)
    | some items =>
      if Members.has schema "additionalItems" then .ok none
      else match items with
        | .object _ => .ok none
        | .array schemas => .ok (some schemas.length)
        | v => .error (.wrongType s!"object of type '{v.typeName}' has no len()")
  else
    match Members.get? schema "prefixItems" with
    | some (.array schemas) => .ok (some schemas.length)
    | _ => .ok (some 0)

/-- The indexes of items that a schema has evaluated; references are bounded as for names. -/
def evaluatedItems (d : Dialect) : Nat → Frame → Value → List Value → Search (List Nat)
  | 0, _, _, _ => .fail (.mishap .endless)
  | fuel + 1, frame, .object schema, items =>
    let target := Value.array items
    let here (sub : Value) := evaluatedItems d fuel frame sub items
    if d != .draft2019 && Members.has schema "items" then
      pure (List.range items.length)
    else do
      let referred ← collect (fun (found : Search (Frame × Value)) => do
        let (inner, sub) ← found
        evaluatedItems d fuel inner sub items) (e.referredAll d frame schema)
      match ← Run.ofExcept ((directItems d schema).mapError Stop.mishap) with
      | none => pure (List.range items.length)
      | some count =>
        let conditional ← e.conditional frame schema target
        let chosen ← collect here conditional
        let held ← collect (fun keyword =>
          match Members.get? schema keyword with
          | some sub => do
            let valid ← filterSearch (fun (p : Value × Nat) => e.probe frame sub p.1) items.zipIdx
            pure (valid.map (·.2))
          | none => pure []) ["contains", "unevaluatedItems"]
        let alternative ← collect (fun sub => do
          if ← e.validBelow frame sub target then here sub else pure [])
          (alternatives ["allOf", "oneOf", "anyOf"] schema)
        pure (referred ++ List.range count ++ chosen ++ held ++ alternative)
  | _ + 1, _, _, _ => pure []

end Evaluator

end Preflight.Schema

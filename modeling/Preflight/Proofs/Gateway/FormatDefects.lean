import Preflight.Proofs.Gateway.Conforming
import Preflight.Proofs.Gateway.Patterns
import Preflight.Proofs.Schema.Defects

/-!
# The defects of a configuration

A direct reading of the format of configurations: `serviceDefects` lists what is wrong with a value, and
is made of one reading for each part of the format. The walk through the bundled schema tells of these
defects and of nothing else (`agrees_service`).
-/

namespace Preflight.Gateway

open Json Schema

/-! ### The format -/

def kindDefects (isKind : Value → Bool) : Defects := fun v => defectIf (!isKind v) "type"

def isBool : Value → Bool
  | .bool _ => true
  | _ => false

def isObject : Value → Bool
  | .object _ => true
  | _ => false

def textDefects : Defects := kindDefects isString

def flagDefects : Defects := kindDefects isBool

def sectionDefects : Defects := kindDefects isObject

def isAmong (texts : List String) : Value → Bool
  | .string s => texts.contains s
  | _ => false

def choiceDefects (texts : List String) : Defects := fun v => defectIf (!isAmong texts v) "enum"

/-- A text that is written in a certain way. -/
def writtenDefects (holds : List Char → Bool) : Defects
  | .string s => defectIf (!holds s.toList) "pattern"
  | _ => [.here "type"]

def durationDefects : Defects := writtenDefects isDurationText

def isThree : Value → Bool
  | .int n => n == 3
  | .float x => (Number.float x).equals (.int 3)
  | _ => false

def versionDefects : Defects := fun v => defectIf (!isThree v) "const"

/-- A number may be at once not whole and out of the range. -/
def portDefects : Defects
  | .int n => defectIf (n < 0) "minimum" ++ defectIf (65535 < n) "maximum"
  | .float x =>
    defectIf (!x.isIntegral) "type" ++ (defectIf ((Number.float x).less (.int 0)) "minimum" ++
      defectIf ((Number.int 65535).less (.float x)) "maximum")
  | _ => [.here "type"]

def textsDefects : Defects := listDefects textDefects

def backendDefects : Defects := recordDefects ["url_pattern"] [
  ("url_pattern", textDefects),
  ("host", textsDefects),
  ("method", choiceDefects methods),
  ("encoding", choiceDefects encodings),
  ("extra_config", sectionDefects)]

/-- At least one backend. -/
def backendsDefects : Defects
  | .array items => defectIf items.isEmpty "minItems" ++ itemDefects backendDefects items
  | _ => [.here "type"]

def endpointDefects : Defects := recordDefects ["endpoint", "backend"] [
  ("endpoint", writtenDefects isPathText),
  ("method", choiceDefects methods),
  ("timeout", durationDefects),
  ("output_encoding", choiceDefects encodings),
  ("input_headers", textsDefects),
  ("input_query_strings", textsDefects),
  ("extra_config", sectionDefects),
  ("backend", backendsDefects)]

/-- What is wrong with a value as a configuration. -/
def serviceDefects : Defects := recordDefects ["version"] [
  ("$schema", textDefects),
  ("version", versionDefects),
  ("name", textDefects),
  ("port", portDefects),
  ("host", textsDefects),
  ("timeout", durationDefects),
  ("cache_ttl", durationDefects),
  ("debug_endpoint", flagDefects),
  ("echo_endpoint", flagDefects),
  ("output_encoding", choiceDefects encodings),
  ("extra_config", sectionDefects),
  ("endpoints", listDefects endpointDefects)]

/-! ### The schemas of the parts -/

section Parts

open Walker

variable {w : Walker} {depth : Nat}

theorem agrees_kind {type : String} {isKind : Value → Bool}
    (h : ∀ v, isOfType .draft2020 type v = some (isKind v)) :
    w.Agrees (depth + 1) (.object [("type", .string type)]) (kindDefects isKind) :=
  fun v => tells_object (says_type _ (h v)).single

theorem agrees_text : w.Agrees (depth + 1) (.object [("type", .string "string")]) textDefects :=
  agrees_kind fun v => by cases v <;> rfl

theorem agrees_flag : w.Agrees (depth + 1) (.object [("type", .string "boolean")]) flagDefects :=
  agrees_kind fun v => by cases v <;> rfl

theorem agrees_section :
    w.Agrees (depth + 1) (.object [("type", .string "object")]) sectionDefects :=
  agrees_kind fun v => by cases v <;> rfl

theorem any_schemaEq (texts : List String) (v : Value) :
    (texts.map Value.string).any (·.schemaEq v) = isAmong texts v := by
  rw [List.any_map]
  cases v with
  | string s =>
    rw [isAmong, List.contains_eq_any_beq]
    exact congrArg texts.any (funext fun t => Bool.beq_comm)
  | _ => exact List.any_eq_false.mpr fun s _ => Bool.false_ne_true

theorem agrees_choice (texts : List String) :
    w.Agrees (depth + 1) (.object [("enum", .array (texts.map .string))]) (choiceDefects texts) := by
  intro v
  unfold choiceDefects
  rw [← any_schemaEq texts v]
  exact tells_object (says_enum _).single

theorem agrees_version : w.Agrees (depth + 1) (.object [("const", .int 3)]) versionDefects := by
  intro v
  refine tells_object ?_
  cases v <;> exact (says_const _).single

theorem agrees_written {pattern : String} {holds : List Char → Bool}
    (h : ∀ s, patternFound pattern s = .ok (holds s.toList)) :
    w.Agrees (depth + 1) (.object [("type", .string "string"), ("pattern", .string pattern)])
      (writtenDefects holds) := by
  intro v
  refine tells_object ?_
  cases v with
  | string s => 
    show w.SaysEach _ _ _ _ ([] ++ _)
    exact SaysEach.cons (says_type true (by rfl)) (says_pattern (h s)).single
  | _ => exact SaysEach.cons (says_type false (by rfl)) (says_pattern_of_ne (by simp)).single

theorem less_int (a b : Int) : (Number.int a).less (.int b) = decide (a < b) := by
  rw [Bool.eq_iff_iff, decide_eq_true_eq]
  simp [Number.less, Number.compare?, Int.compare_eq_lt]

theorem agrees_port :
    w.Agrees (depth + 1) (.object [("type", .string "integer"), ("minimum", .int 0),
      ("maximum", .int 65535)]) portDefects := by
  intro v
  refine tells_object ?_
  cases v with
  | int n =>
    have hl : boundFails Number.less 0 (.int n) = decide (n < 0) := less_int n 0
    have hu : boundFails (fun n b => b.less n) 65535 (.int n) = decide (65535 < n) := less_int 65535 n
    show w.SaysEach _ _ _ _ ([] ++ (_ ++ _))
    rw [← hl, ← hu]
    exact SaysEach.cons (says_type true (by rfl)) (SaysEach.cons (says_minimum 0)
      (says_maximum 65535).single)
  | float x =>
    exact SaysEach.cons (says_type x.isIntegral (by rfl)) (SaysEach.cons (says_minimum 0)
      (says_maximum 65535).single)
  | _ =>
    exact SaysEach.cons (says_type false (by rfl)) (SaysEach.cons (says_minimum 0)
      (says_maximum 65535).single)

theorem agrees_texts :
    w.Agrees (depth + 2) (.object [("type", .string "array"),
      ("items", .object [("type", .string "string")])]) textsDefects :=
  agrees_list (by decide) agrees_text

end Parts

/-! ### The definitions -/

section Definitions

open Walker

variable {fetch : Fetch} {formats : Bool} {registry : Registry} {depth : Nat} {v : Value}

theorem agrees_definition {name ref : String} {part : Value} {reading : Defects}
    (hr : (name, ref) ∈ definitionRefs) (hg : definition? name = some part) (hp : Plain part)
    (h : (bundledWalker fetch formats registry).Agrees depth part reading) :
    (bundledWalker fetch formats registry).Agrees (depth + 1) (.object [("$ref", .string ref)])
      reading :=
  fun v => tells_object (says_ref hp (lookup_bundled hr hg hp) (h v)).single

theorem agrees_hosts :
    (bundledWalker fetch formats registry).Agrees (depth + 3)
      (.object [("$ref", .string "#/$defs/hosts")]) textsDefects :=
  agrees_definition (.head _) (by rfl) (by decide) agrees_texts

theorem agrees_duration :
    (bundledWalker fetch formats registry).Agrees (depth + 2)
      (.object [("$ref", .string "#/$defs/duration")]) durationDefects :=
  agrees_definition (.tail _ (.head _)) (by rfl) (by decide) (agrees_written patternFound_duration)

theorem agrees_encoding :
    (bundledWalker fetch formats registry).Agrees (depth + 2)
      (.object [("$ref", .string "#/$defs/encoding")]) (choiceDefects encodings) :=
  agrees_definition (.tail _ (.tail _ (.head _))) (by rfl) (by decide) (agrees_choice encodings)

theorem agrees_backend :
    (bundledWalker fetch formats registry).Agrees (depth + 5)
      (.object [("$ref", .string "#/$defs/backend")]) backendDefects := by
  refine agrees_definition (.tail _ (.tail _ (.tail _ (.head _)))) (by rfl) (by decide)
    (agrees_record [] [] ["url_pattern"] (by decide) ?_)
  exact .cons ⟨rfl, by decide, agrees_text⟩ <| .cons ⟨rfl, by decide, agrees_hosts⟩ <|
    .cons ⟨rfl, by decide, agrees_choice methods⟩ <| .cons ⟨rfl, by decide, agrees_encoding⟩ <|
    .cons ⟨rfl, by decide, agrees_section⟩ .nil

theorem agrees_backends :
    (bundledWalker fetch formats registry).Agrees (depth + 6)
      (.object [("type", .string "array"), ("minItems", .int 1),
        ("items", .object [("$ref", .string "#/$defs/backend")])]) backendsDefects := by
  intro v
  refine tells_object ?_
  cases v with
  | array items =>
    show Walker.SaysEach _ _ _ _ _ ([] ++ (_ ++ _))
    exact SaysEach.cons (says_type true (by rfl)) (SaysEach.cons (says_minItems_one items)
      (says_items (by decide) (by rfl) agrees_backend items).single)
  | _ =>
    exact SaysEach.cons (says_type false (by rfl)) (SaysEach.cons (says_minItems_of_ne (by simp))
      (says_items_of_ne (by simp)).single)

theorem agrees_endpoint :
    (bundledWalker fetch formats registry).Agrees (depth + 8)
      (.object [("$ref", .string "#/$defs/endpoint")]) endpointDefects := by
  refine agrees_definition (.tail _ (.tail _ (.tail _ (.tail _ (.head _))))) (by rfl) (by decide)
    (agrees_record [] [] ["endpoint", "backend"] (by decide) ?_)
  exact .cons ⟨rfl, by decide, agrees_written patternFound_path⟩ <|
    .cons ⟨rfl, by decide, agrees_choice methods⟩ <| .cons ⟨rfl, by decide, agrees_duration⟩ <|
    .cons ⟨rfl, by decide, agrees_encoding⟩ <| .cons ⟨rfl, by decide, agrees_texts⟩ <|
    .cons ⟨rfl, by decide, agrees_texts⟩ <| .cons ⟨rfl, by decide, agrees_section⟩ <|
    .cons ⟨rfl, by decide, agrees_backends⟩ .nil

theorem agrees_service :
    (bundledWalker fetch formats registry).Agrees (depth + 10) bundledSchema serviceDefects := by
  refine agrees_record
    [("$schema", .string "https://json-schema.org/draft/2020-12/schema"),
      ("title", .string "Gateway configuration")] [("$defs", _)] ["version"] ?_ ?_
  · rintro m hm
    simp only [List.mem_append, List.mem_cons, List.not_mem_nil, or_false] at hm
    rcases hm with (rfl | rfl) | rfl <;> rfl
  · exact .cons ⟨rfl, by decide, agrees_text⟩ <| .cons ⟨rfl, by decide, agrees_version⟩ <|
      .cons ⟨rfl, by decide, agrees_text⟩ <| .cons ⟨rfl, by decide, agrees_port⟩ <|
      .cons ⟨rfl, by decide, agrees_hosts⟩ <| .cons ⟨rfl, by decide, agrees_duration⟩ <|
      .cons ⟨rfl, by decide, agrees_duration⟩ <| .cons ⟨rfl, by decide, agrees_flag⟩ <|
      .cons ⟨rfl, by decide, agrees_flag⟩ <| .cons ⟨rfl, by decide, agrees_encoding⟩ <|
      .cons ⟨rfl, by decide, agrees_section⟩ <|
      .cons ⟨rfl, by decide, agrees_list (by decide) agrees_endpoint⟩ .nil

end Definitions

end Preflight.Gateway

import Preflight.Schema.Trace

/-!
# Violations

A finding as it is reported: the place in the value as a JSON pointer, the keyword, the way through
the schema and a message. A missing property is reported at its own place. A report lists the
violations in the order of their places, those of one place in the order of the ways through the
schema.
-/

namespace Preflight.Schema

/-- A step of a pointer: a tilde becomes `~0` and a slash `~1`. -/
def escapeStep : List Char → List Char
  | [] => []
  | '~' :: s => '~' :: '0' :: escapeStep s
  | '/' :: s => '~' :: '1' :: escapeStep s
  | c :: s => c :: escapeStep s

def pointerChars (steps : List Step) : List Char :=
  steps.flatMap fun step => '/' :: escapeStep step.text.toList

def pointer (steps : List Step) : String := String.ofList (pointerChars steps)

structure Violation where
  pointer : String
  keyword : String
  schemaPath : String
  message : String
  deriving DecidableEq, Repr

def Violation.text (v : Violation) : String := s!"at '{v.pointer}' [{v.keyword}] {v.message}"

def Violation.ofFinding (x : Finding) : Violation where
  pointer := Schema.pointer (x.valuePath ++ (x.missing.map Step.name).toList)
  keyword := x.keyword.getD "None"
  schemaPath := "#" ++ Schema.pointer x.schemaPath
  message := match x.missing with
    | some name => s!"missing property '{name}'"
    | none => x.message

def Violation.le (a b : Violation) : Bool :=
  a.pointer < b.pointer || (a.pointer == b.pointer && !(b.schemaPath < a.schemaPath))

def reported (findings : List Finding) : List Violation :=
  (findings.map Violation.ofFinding).mergeSort Violation.le

end Preflight.Schema

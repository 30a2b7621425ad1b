import Preflight.Proofs.Gateway.Reading
import Preflight.Proofs.Schema.Findings

/-!
# What a validation reports

A validation that fails reports all findings of the evaluation, sorted by their pointers and then by
their ways through the schema, and each pointer leads to the place of its finding in the value
(`violations_of_validate`).
-/

namespace Preflight.Schema

open Gateway Json

/-- The order of a report: by the pointer, then by the way through the schema. -/
def Violation.Before (a b : Violation) : Prop :=
  a.pointer < b.pointer ∨ a.pointer = b.pointer ∧ a.schemaPath ≤ b.schemaPath

/-- A violation points to a value below another one; or it is one of `required` and points to a member
that an object there lacks. -/
inductive Violation.Points (v : Value) (w : Violation) : Prop
  | reached {tokens : List String} {found : Value} : tokens? w.pointer = some tokens →
      Reaches v tokens found → Points v w
  | absent {tokens : List String} {name : String} {members : Members} : w.keyword = "required" →
      tokens? w.pointer = some (tokens ++ [name]) → Reaches v tokens (.object members) →
      Members.get? members name = none → Points v w

variable {a b c : Violation} {v : Value} {x : Finding}

/-! ### The order -/

theorem le_iff_before : Violation.le a b = true ↔ a.Before b := by
  unfold Violation.le Violation.Before
  rw [Bool.or_eq_true, decide_eq_true_eq, Bool.and_eq_true, beq_iff_eq, Bool.not_eq_true',
    decide_eq_false_iff_not, String.not_lt]

theorem Violation.Before.trans (hab : a.Before b) (hbc : b.Before c) : a.Before c := by
  rcases hab with hab | ⟨hab, hsab⟩
  · rcases hbc with hbc | ⟨hbc, -⟩
    · exact .inl (String.lt_trans hab hbc)
    · exact .inl (hbc ▸ hab)
  · rcases hbc with hbc | ⟨hbc, hsbc⟩
    · exact .inl (hab ▸ hbc)
    · exact .inr ⟨hab.trans hbc, String.le_trans hsab hsbc⟩

theorem Violation.before_total (a b : Violation) : a.Before b ∨ b.Before a := by
  by_cases hab : a.pointer < b.pointer
  · exact .inl (.inl hab)
  · by_cases hba : b.pointer < a.pointer
    · exact .inr (.inl hba)
    · have he : a.pointer = b.pointer :=
        String.le_antisymm (String.not_lt.mp hba) (String.not_lt.mp hab)
      rcases String.le_total a.schemaPath b.schemaPath with hs | hs
      · exact .inl (.inr ⟨he, hs⟩)
      · exact .inr (.inr ⟨he.symm, hs⟩)

theorem pairwise_reported (findings : List Finding) :
    (reported findings).Pairwise Violation.Before := by
  have hsorted : (reported findings).Pairwise fun a b => Violation.le a b = true := by
    refine List.pairwise_mergeSort (fun a b c hab hbc => ?_) (fun a b => ?_) _
    · exact le_iff_before.mpr ((le_iff_before.mp hab).trans (le_iff_before.mp hbc))
    · rw [Bool.or_eq_true, le_iff_before, le_iff_before]
      exact Violation.before_total a b
  exact hsorted.imp le_iff_before.mp

/-! ### The report -/

theorem points_ofFinding (h : x.Located "None" v) : (Violation.ofFinding x).Points v := by
  have ht : tokens? (Violation.ofFinding x).pointer = some x.place := tokens_pointer _
  cases h with
  | reached hf => exact .reached ht hf
  | absent hk hp ho hn =>
    rw [hp] at ht
    exact .absent hk ht ho hn

theorem validate_violations_iff {schema : Compiled} {fetch : Fetch} {uri : String}
    {violations : List Violation} :
    (schema.validate fetch v).result = .error (.fault (.violations uri violations)) ↔
      uri = schema.uri ∧ ∃ findings, findings ≠ [] ∧
        (schema.findings fetch v).result = .ok findings ∧ violations = reported findings := by
  unfold Compiled.validate
  cases hf : (schema.findings fetch v).result with
  | error stop =>
    rw [Run.bind_of_error _ (by rw [Run.mapError, hf]; rfl)]
    constructor
    · intro h
      cases stop with
      | unresolved withKind fault => cases h
      | mishap m => cases h
    · rintro ⟨-, findings, -, h, -⟩
      cases h
  | ok findings =>
    rw [Run.bind_of_ok _ (by rw [Run.mapError, hf]; rfl)]
    cases findings with
    | nil =>
      constructor
      · intro h
        cases h
      · rintro ⟨-, findings, hne, h, -⟩
        cases h
        exact absurd rfl hne
    | cons x findings =>
      constructor
      · intro h
        cases h
        exact ⟨rfl, x :: findings, List.cons_ne_nil _ _, rfl, rfl⟩
      · rintro ⟨rfl, findings', -, h, rfl⟩
        cases h
        rfl

/-- A report of a value holds what the evaluation found, each finding once, in the order of the pointers
and the ways through the schema; and each of its pointers is read as the way to a place in the value,
or, for `required` only, to a member that an object in the value lacks. -/
theorem violations_of_validate (schema : Compiled) (fetch : Fetch) (v : Value) (uri : String)
    (violations : List Violation)
    (h : (schema.validate fetch v).result = .error (.fault (.violations uri violations))) :
    (∃ findings, (schema.findings fetch v).result = .ok findings ∧
      violations.Perm (findings.map Violation.ofFinding)) ∧
    violations.Pairwise Violation.Before ∧
    ∀ w ∈ violations, w.Points v := by
  obtain ⟨-, findings, -, hf, rfl⟩ := validate_violations_iff.mp h
  have hperm : (reported findings).Perm (findings.map Violation.ofFinding) :=
    List.mergeSort_perm _ _
  refine ⟨⟨findings, hf, hperm⟩, pairwise_reported findings, fun w hw => ?_⟩
  obtain ⟨x, hx, rfl⟩ := List.mem_map.mp (hperm.mem_iff.mp hw)
  have hall := (finds_walk fetch false maxDepth _ _ _ _).of_findings hf
  exact points_ofFinding (hall x hx "None")

def slashSchema : Compiled := ⟨"slash.json", .draft2020, .object [
  ("required", .array [.string "a/b"]),
  ("properties", .object [("c", .object [("items", .object [("type", .string "string")])])])],
  Registry.empty⟩

def slashValue : Value := .object [("c", .array [.int 1])]

def slashFindings : List Finding := [
  ⟨some "required", [], [.name "required"], "'a/b' is a required property", some "a/b"⟩,
  ⟨some "type", [.name "c", .index 0], [.name "properties", .name "c", .name "items", .name "type"],
    "1 is not of type 'string'", none⟩]

theorem violations_of_slashValue : ∃ violations,
    (slashSchema.validate fetchNothing slashValue).result =
      .error (.fault (.violations "slash.json" violations)) ∧
    violations.Perm [⟨"/a~1b", "required", "#/required", "missing property 'a/b'"⟩,
      ⟨"/c/0", "type", "#/properties/c/items/type", "1 is not of type 'string'"⟩] ∧
    ∀ w ∈ violations, w.Points slashValue := by
  have hf : (slashSchema.findings fetchNothing slashValue).result = .ok slashFindings :=
    eq_ok_of_toOption (by decide +kernel)
  have hv : (slashSchema.validate fetchNothing slashValue).result =
      .error (.fault (.violations "slash.json" (reported slashFindings))) :=
    validate_violations_iff.mpr ⟨rfl, slashFindings, List.cons_ne_nil _ _, hf, rfl⟩
  have himages : slashFindings.map Violation.ofFinding =
      [⟨"/a~1b", "required", "#/required", "missing property 'a/b'"⟩,
        ⟨"/c/0", "type", "#/properties/c/items/type", "1 is not of type 'string'"⟩] := by
    decide +kernel
  obtain ⟨⟨findings, hfound, hperm⟩, -, hpoints⟩ :=
    violations_of_validate slashSchema fetchNothing slashValue "slash.json" _ hv
  rw [hf] at hfound
  cases hfound
  rw [himages] at hperm
  exact ⟨_, hv, hperm, hpoints⟩

end Preflight.Schema

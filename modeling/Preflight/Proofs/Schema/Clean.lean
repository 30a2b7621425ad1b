import Preflight.Schema.Compiled

/-!
# Evaluations without findings

`Trace.Clean` says that an evaluation comes to its end and finds nothing. Traces are put together in
a few ways, and each of them is clean when its parts are (`clean_followedBy`, `clean_each`,
`clean_map`, `clean_after`). A value passes its validation when the trace of the whole schema is
clean (`validate_ok_iff`).
-/

namespace Preflight.Schema

open Json

namespace Trace

def Clean (t : Trace) : Prop := t.findings.result = .ok []

theorem clean_done : Clean .done := rfl

theorem not_clean_stop (reason : Stop) : ¬ Clean (.stop reason) := by
  intro h
  cases h

theorem clean_event (e : Event) (next : Unit → Trace) : Clean (.event e next) ↔ Clean (next ()) :=
  Iff.rfl

theorem not_clean_finding (x : Finding) (next : Unit → Trace) : ¬ Clean (.finding x next) := by
  intro h
  have h : (next ()).findings.result.map (x :: ·) = .ok [] := h
  cases hr : (next ()).findings.result with
  | error reason =>
    rw [hr] at h
    cases h
  | ok rest =>
    rw [hr] at h
    cases h

theorem not_clean_report (x : Finding) : ¬ Clean (report x) := not_clean_finding x _

theorem clean_followedBy (t : Trace) (k : Unit → Trace) :
    Clean (t.followedBy k) ↔ Clean t ∧ Clean (k ()) := by
  induction t with
  | done =>
    rw [followedBy]
    exact ⟨fun h => ⟨clean_done, h⟩, fun h => h.2⟩
  | stop reason =>
    rw [followedBy]
    exact ⟨fun h => absurd h (not_clean_stop reason), fun h => absurd h.1 (not_clean_stop reason)⟩
  | event e next ih =>
    rw [followedBy, clean_event, clean_event]
    exact ih ()
  | finding x next _ =>
    rw [followedBy]
    exact ⟨fun h => absurd h (not_clean_finding x _),
      fun h => absurd h.1 (not_clean_finding x _)⟩

theorem clean_each {α : Type} (f : α → Trace) (l : List α) :
    Clean (each f l) ↔ ∀ a ∈ l, Clean (f a) := by
  induction l with
  | nil => exact ⟨fun _ a ha => absurd ha List.not_mem_nil, fun _ => clean_done⟩
  | cons a l ih => rw [each, clean_followedBy, ih, List.forall_mem_cons]

theorem clean_map (f : Finding → Finding) (t : Trace) : Clean (t.map f) ↔ Clean t := by
  induction t with
  | done => exact Iff.rfl
  | stop reason => exact Iff.rfl
  | event e next ih =>
    rw [map, clean_event, clean_event]
    exact ih ()
  | finding x next _ =>
    rw [map]
    exact ⟨fun h => absurd h (not_clean_finding _ _), fun h => absurd h (not_clean_finding _ _)⟩

theorem clean_foldr_event (events : List Event) (t : Trace) :
    Clean (events.foldr (fun e t => .event e fun _ => t) t) ↔ Clean t := by
  induction events with
  | nil => exact Iff.rfl
  | cons e events ih =>
    rw [List.foldr_cons, clean_event]
    exact ih

theorem clean_after {α : Type} (search : Search α) (k : α → Trace) :
    Clean (after search k) ↔ ∃ a, search.result = .ok a ∧ Clean (k a) := by
  unfold after
  rw [clean_foldr_event]
  cases hr : search.result with
  | error reason =>
    refine ⟨fun h => absurd h (not_clean_stop reason), ?_⟩
    rintro ⟨a, ha, -⟩
    cases ha
  | ok a =>
    refine ⟨fun h => ⟨a, rfl, h⟩, ?_⟩
    rintro ⟨b, hb, h⟩
    cases hb
    exact h

theorem clean_after_ok {α : Type} {search : Search α} {a : α} (k : α → Trace)
    (h : search.result = .ok a) : Clean (after search k) ↔ Clean (k a) := by
  rw [clean_after]
  refine ⟨?_, fun hk => ⟨a, h, hk⟩⟩
  rintro ⟨b, hb, hk⟩
  rw [h] at hb
  cases hb
  exact hk

theorem clean_ofMessage? (m : Option String) : Clean (ofMessage? m) ↔ m = none := by
  cases m with
  | none => exact ⟨fun _ => rfl, fun _ => clean_done⟩
  | some message =>
    refine ⟨fun h => absurd h (not_clean_report _), fun h => ?_⟩
    cases h

theorem clean_ofVerdict (v : Verdict) : Clean (ofVerdict v) ↔ v = .ok none := by
  cases v with
  | error mishap =>
    refine ⟨fun h => absurd h (not_clean_stop _), fun h => ?_⟩
    cases h
  | ok m =>
    rw [ofVerdict, clean_ofMessage?]
    exact ⟨fun h => congrArg _ h, fun h => Except.ok.inj h⟩

end Trace

/-- An objection is none where it does not hold. -/
theorem objection_eq_none (fails : Bool) (message : String) :
    objection fails message = .ok none ↔ fails = false := by
  cases fails <;> simp [objection]

/-- Validation passes a value when the evaluation of the whole document is clean. -/
theorem Compiled.validate_ok_iff (schema : Compiled) (fetch : Fetch) (v : Value) :
    (schema.validate fetch v).result = .ok () ↔
      (evaluate fetch false (MetaSchema.registry.combine schema.registry) schema.dialect
        schema.document v).Clean := by
  unfold Compiled.validate Compiled.findings Trace.Clean
  generalize (evaluate fetch false (MetaSchema.registry.combine schema.registry) schema.dialect
    schema.document v).findings = search
  cases hr : search.result with
  | error reason =>
    rw [Run.bind_of_error _ (by rw [Run.mapError, hr]; rfl)]
    simp
  | ok xs =>
    rw [Run.bind_of_ok _ (by rw [Run.mapError, hr]; rfl)]
    cases xs with
    | nil => simp
    | cons x xs => simp [Run.fail]

end Preflight.Schema

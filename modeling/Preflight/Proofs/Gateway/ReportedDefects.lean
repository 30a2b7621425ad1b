import Preflight.Proofs.Gateway.FormatDefects
import Preflight.Proofs.Schema.Reordered
import Preflight.Proofs.Schema.Reported
import Preflight.Proofs.Schema.SimpleSchemas

/-!
# The report about a configuration

The bundled schema compiles (`exists_compiled`), and what it reports of a value are the defects of the
value, each at its pointer and with its keyword (`reports_defects`). The order of members has no say in
that.
-/

namespace Preflight.Gateway

open Json Schema

/-! ### The bundled schema compiles -/

theorem isTidy_bundledSchema : isTidy bundledSchema = true := by decide +kernel

theorem isSimpleSchema_bundledSchema : MetaSchema.isSimpleSchema bundledSchema = true := by
  decide +kernel

theorem exists_compiled :
    ∃ schema, (compile Source.embeddedUri bundledSchema).result = .ok schema := by
  obtain ⟨registry, hc⟩ := crawl_ok (selfContained_of_isTidy isTidy_bundledSchema) isLocation_name
  refine ⟨⟨Source.embeddedUri, .draft2020, bundledSchema, registry⟩, compile_ok_iff.mpr ?_⟩
  exact {
    isSchema := rfl
    dialect := MetaSchema.evaluating_of_root rfl _
    allowed := allowed_of_isSimpleSchema isSimpleSchema_bundledSchema (by decide +kernel)
    crawled := hc
    uri_eq := rfl
    document_eq := rfl }

/-! ### What is reported -/

/-- What a validation complains of: pointers and keywords. -/
def complaints : Except (Failure LintFault) Unit → Option (List (String × String))
  | .ok () => some []
  | .error (.fault (.violations _ violations)) =>
    some (violations.map fun v => (v.pointer, v.keyword))
  | .error _ => none

def shownDefect (x : Defect) : String × String := (pointer x.place, x.keyword)

variable {schema : Compiled} {fetch : Fetch} {v : Value}

theorem complaints_of_findings {found : List Finding}
    (h : (schema.findings fetch v).result = .ok found) :
    ∃ told, complaints (schema.validate fetch v).result = some told ∧
      told.Perm ((found.map (Finding.defect "None")).map shownDefect) := by
  cases found with
  | nil =>
    have hv : (schema.validate fetch v).result = .ok () := (schema.validate_ok_iff fetch v).mpr h
    exact ⟨[], by rw [hv]; rfl, .nil⟩
  | cons x found =>
    have hv : (schema.validate fetch v).result =
        .error (.fault (.violations schema.uri (reported (x :: found)))) :=
      validate_violations_iff.mpr ⟨rfl, _, List.cons_ne_nil _ _, h, rfl⟩
    refine ⟨_, by rw [hv]; rfl, ?_⟩
    rw [List.map_map]
    have hp : (reported (x :: found)).Perm ((x :: found).map Violation.ofFinding) :=
      List.mergeSort_perm _ _
    have := hp.map fun v => (v.pointer, v.keyword)
    rw [List.map_map] at this
    exact this

theorem complaints_of_isBundled (hb : IsBundled schema) (fetch : Fetch) (v : Value) :
    ∃ told, complaints (schema.validate fetch v).result = some told ∧
      told.Perm ((serviceDefects v).map shownDefect) := by
  have hw : (bundledWalker fetch false (MetaSchema.registry.combine schema.registry)).Agrees
      maxDepth bundledSchema serviceDefects := agrees_service
  obtain ⟨found, hf, hd⟩ := hw v "None"
  rw [← hd]
  refine complaints_of_findings ?_
  unfold Compiled.findings
  rw [hb.dialect, hb.document]
  exact hf

/-! ### The order of members -/

theorem blind_kind {isKind : Value → Bool}
    (ho : ∀ members members', isKind (.object members) = isKind (.object members'))
    (ha : ∀ items items', isKind (.array items) = isKind (.array items')) :
    Blind (kindDefects isKind) :=
  blind_of_flat (fun _ _ => congrArg (fun b => defectIf (!b) "type") (ho _ _))
    fun _ _ => congrArg (fun b => defectIf (!b) "type") (ha _ _)

theorem blind_text : Blind textDefects := blind_kind (fun _ _ => rfl) fun _ _ => rfl

theorem blind_flag : Blind flagDefects := blind_kind (fun _ _ => rfl) fun _ _ => rfl

theorem blind_section : Blind sectionDefects := blind_kind (fun _ _ => rfl) fun _ _ => rfl

theorem blind_choice (texts : List String) : Blind (choiceDefects texts) :=
  blind_of_flat (fun _ _ => rfl) fun _ _ => rfl

theorem blind_written (holds : List Char → Bool) : Blind (writtenDefects holds) :=
  blind_of_flat (fun _ _ => rfl) fun _ _ => rfl

theorem blind_version : Blind versionDefects := blind_of_flat (fun _ _ => rfl) fun _ _ => rfl

theorem blind_port : Blind portDefects := blind_of_flat (fun _ _ => rfl) fun _ _ => rfl

theorem blind_texts : Blind textsDefects := blind_list blind_text

theorem blind_backend : Blind backendDefects := by
  refine blind_record _ ?_
  simp only [List.forall_mem_cons, List.not_mem_nil, false_imp_iff, implies_true, and_true]
  exact ⟨blind_text, blind_texts, blind_choice _, blind_choice _, blind_section⟩

theorem blind_backends : Blind backendsDefects := by
  intro v w h
  cases h.matched with
  | same => rfl
  | objects _ => rfl
  | arrays hi =>
    show defectIf _ _ ++ _ = defectIf _ _ ++ _
    rw [itemDefects_congr blind_backend hi]
    cases hi <;> rfl

theorem blind_endpoint : Blind endpointDefects := by
  refine blind_record _ ?_
  simp only [List.forall_mem_cons, List.not_mem_nil, false_imp_iff, implies_true, and_true]
  exact ⟨blind_written _, blind_choice _, blind_written _, blind_choice _, blind_texts, blind_texts,
    blind_section, blind_backends⟩

theorem blind_service : Blind serviceDefects := by
  refine blind_record _ ?_
  simp only [List.forall_mem_cons, List.not_mem_nil, false_imp_iff, implies_true, and_true]
  exact ⟨blind_text, blind_version, blind_text, blind_port, blind_texts, blind_written _,
    blind_written _, blind_flag, blind_flag, blind_choice _, blind_section, blind_list blind_endpoint⟩

/-- The bundled schema compiles, and reports of a value its defects, no other ones and each as often as
it is there, also when the members of its objects stand in another order. -/
theorem reports_defects : ∃ schema, (compile Source.embeddedUri bundledSchema).result = .ok schema ∧
    ∀ fetch v, ∃ told, complaints (schema.validate fetch v).result = some told ∧
      told.Perm ((serviceDefects v).map shownDefect) ∧
      ∀ w, Reordered v w → ∃ told', complaints (schema.validate fetch w).result = some told' ∧
        told'.Perm told := by
  obtain ⟨schema, hc⟩ := exists_compiled
  have hb := isBundled_of_compile hc
  refine ⟨schema, hc, fun fetch v => ?_⟩
  obtain ⟨told, ht, hp⟩ := complaints_of_isBundled hb fetch v
  refine ⟨told, ht, hp, fun w hw => ?_⟩
  obtain ⟨told', ht', hp'⟩ := complaints_of_isBundled hb fetch w
  rw [← blind_service v w hw] at hp'
  exact ⟨told', ht', hp'.trans hp.symm⟩

/-- A missing version, a port out of its range, and an element of a wrong type at its own index. -/
example : (serviceDefects (.object [("port", .int 70000),
      ("endpoints", .array [.int 1, .object [("endpoint", .string "a"), ("backend", .array [])]])])).map
        shownDefect =
    [("/version", "required"), ("/port", "maximum"), ("/endpoints/0", "type"),
      ("/endpoints/1/endpoint", "pattern"), ("/endpoints/1/backend", "minItems")] := by
  decide +kernel

end Preflight.Gateway

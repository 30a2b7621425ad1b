import Preflight.Proofs.Schema.Keywords
import Preflight.Proofs.Schema.Reported
import Preflight.Proofs.Schema.Within
import Preflight.Proofs.Text.Quoted

/-!
# Missing properties

The message of `required` begins with the quoted name that an object lacks. No quoted name begins with
another one, so the name is found again in the list of the keyword (`missingProperty_eq`). Hence the
keyword reports each name that is missing, and no other, at a place of its own
(`missing_properties_told_apart`).
-/

namespace Preflight.Schema

open Gateway Json Text

variable {members object : Members} {names : List String} {frame : Frame}

def requiredMessage (name : String) : String := s!"{(Value.string name).show} is a required property"

/-- What `required` finds where an object lacks a member. -/
def Finding.ofAbsent (name : String) : Finding := ⟨none, [], [], requiredMessage name, some name⟩

def absent (object : Members) (names : List String) : List String :=
  names.filter fun name => !Members.has object name

/-! ### The names in messages -/

/-- What is said of a missing name begins with no other name. -/
theorem show_prefix_requiredMessage {name other : String} :
    (Value.string other).show.toList <+: (requiredMessage name).toList ↔ other = name := by
  have hm : (requiredMessage name).toList =
      quotedChars name.toList ++ " is a required property".toList := by
    show (quoted name ++ " is a required property").toList = _
    rw [String.toList_append, toList_quoted]
  rw [hm]
  unfold Value.show
  rw [toList_quoted]
  constructor
  · exact fun h => String.toList_injective (eq_of_prefix_quotedChars h)
  · rintro rfl
    exact List.prefix_append _ _

/-- The message about a missing name tells which one it is. -/
theorem missingProperty_eq {name : String} (hm : name ∈ names)
    (hl : Members.has object name = false) :
    Evaluator.missingProperty (.object object) (.array (names.map .string)) (requiredMessage name) =
      some name := by
  unfold Evaluator.missingProperty
  dsimp only
  cases hf : (names.map Value.string).find? fun n =>
      lacks object n && n.show.toList.isPrefixOf (requiredMessage name).toList with
  | none =>
    have hp := List.find?_eq_none.mp hf _ (List.mem_map_of_mem hm)
    rw [lacks, hl, Bool.not_false, Bool.true_and, List.isPrefixOf_iff_prefix,
      show_prefix_requiredMessage] at hp
    exact absurd rfl hp
  | some v =>
    obtain ⟨other, -, rfl⟩ := List.mem_map.mp (List.mem_of_find?_eq_some hf)
    have hp := List.find?_some hf
    rw [Bool.and_eq_true, List.isPrefixOf_iff_prefix, show_prefix_requiredMessage] at hp
    rw [hp.2]
    rfl

theorem findings_applyRequired :
    (Evaluator.applyRequired ⟨frame, members, .object object⟩ (.array (names.map .string))).findings.result =
      .ok ((absent object names).map .ofAbsent) := by
  have hl : (names.map Value.string).filter (lacks object) = (absent object names).map .string :=
    List.filter_map
  show (Trace.each _ ((names.map Value.string).filter (lacks object))).findings.result = _
  rw [hl, Trace.findings_each_report (g := fun v => .ofAbsent v.plain), List.map_map]
  · rfl
  · intro v hv
    obtain ⟨name, hm, rfl⟩ := List.mem_map.mp hv
    obtain ⟨hm, hn⟩ := List.mem_filter.mp hm
    have hp := missingProperty_eq hm (by simpa using hn)
    exact congrArg (fun missing => Trace.report ⟨none, [], [], requiredMessage name, missing⟩) hp

/-! ### The keyword in a walk -/

theorem ofKeyword?_required {d : Dialect} (h : d ≠ .draft3) :
    Rule.ofKeyword? d "required" = some .required := by
  cases d with
  | draft3 => exact absurd rfl h
  | _ => rfl

theorem findings_keyword_required {e : Evaluator} (hd : frame.dialect ≠ .draft3) (depth : Nat) :
    (e.keywordTrace depth ⟨frame, members, .object object⟩
        ("required", .array (names.map .string))).findings.result =
      .ok ((absent object names).map fun name => (Finding.ofAbsent name).under "required") := by
  unfold Evaluator.keywordTrace
  dsimp only
  rw [ofKeyword?_required hd]
  exact Trace.findings_map.mpr ⟨_, findings_applyRequired, List.map_map⟩

/-! ### Places of missing members -/

variable {valuePath schemaPath : List Step}

/-- The report of a missing member, given the ways to the object and to the schema that asks for it. -/
def Violation.ofAbsent (valuePath schemaPath : List Step) (name : String) : Violation where
  pointer := Schema.pointer valuePath ++ "/" ++ String.ofList (escapeStep name.toList)
  keyword := "required"
  schemaPath := "#" ++ Schema.pointer (schemaPath ++ [.name "required"])
  message := s!"missing property '{name}'"

theorem pointer_concat (steps : List Step) (name : String) :
    pointer (steps ++ [.name name]) =
      pointer steps ++ "/" ++ String.ofList (escapeStep name.toList) := by
  apply String.toList_injective
  unfold pointer pointerChars
  rw [List.flatMap_append, String.toList_append, String.toList_append, String.toList_ofList,
    String.toList_ofList, String.toList_ofList, List.append_assoc]
  simp [Step.text]

theorem ofFinding_ofAbsent (name : String) :
    .ofFinding (((Finding.ofAbsent name).under "required").seenFrom valuePath schemaPath) =
      Violation.ofAbsent valuePath schemaPath name := by
  have ht : transparent.contains "required" = false := by decide
  have hx : ((Finding.ofAbsent name).under "required").seenFrom valuePath schemaPath =
      ⟨some "required", valuePath, schemaPath ++ [.name "required"], requiredMessage name, some name⟩ := by
    unfold Finding.under Finding.seenFrom Finding.ofAbsent
    dsimp only
    rw [ht, if_neg Bool.false_ne_true, List.append_nil, Option.getD_none]
  rw [hx]
  unfold Violation.ofAbsent
  rw [← pointer_concat]
  rfl

theorem nodup_pointers (h : names.Nodup) :
    ((names.map (.ofAbsent valuePath schemaPath)).map Violation.pointer).Nodup := by
  rw [List.map_map]
  refine List.pairwise_map.mpr (h.imp fun {name other} hne he => hne ?_)
  have hp : pointer (valuePath ++ [.name name]) = pointer (valuePath ++ [.name other]) := by
    rw [pointer_concat, pointer_concat]
    exact he
  have ht := congrArg tokens? hp
  rw [tokens_pointer, tokens_pointer, List.map_append, List.map_append, Option.some.injEq] at ht
  exact List.singleton_inj.mp (List.append_cancel_left ht)

/-! ### Reports -/

/-- The evaluation that a validation reports the findings of. -/
def Compiled.evaluation (schema : Compiled) (fetch : Fetch) (v : Value) : Trace :=
  evaluate fetch false (MetaSchema.registry.combine schema.registry) schema.dialect schema.document v

/-- Wherever an evaluation comes upon an object and passes on what it finds there, `required` with a list
of different names reports each name of the list that the object lacks, once and in the order of the list:
at the place of the missing member, with the name as it is. The report of a value has these and what else
the evaluation found; a value that lacks a member is not valid. -/
theorem missing_properties_told_apart (schema : Compiled) (fetch : Fetch) (v : Value) {depth : Nat}
    {d : Dialect} (hdraft : frame.dialect ≠ .draft3)
    (hrequired : ("required", .array (names.map .string)) ∈ countingKeywords d members)
    (hnames : names.Nodup)
    (hreached : (walk fetch false (depth + 1) d frame (.object members) (.object object)).Within
      valuePath schemaPath (schema.evaluation fetch v)) :
    ∃ (own : List Finding) (told : List Violation),
      (Evaluator.keywordTrace ⟨fetch, false, walk fetch false depth⟩ depth
        ⟨frame, members, .object object⟩ ("required", .array (names.map .string))).findings.result =
          .ok own ∧
      (own.map (.seenFrom valuePath schemaPath)).map .ofFinding = told ∧
      told = (absent object names).map (.ofAbsent valuePath schemaPath) ∧
      (told.map Violation.pointer).Nodup ∧
      (∀ uri violations,
        (schema.validate fetch v).result = .error (.fault (.violations uri violations)) →
          ∃ before after, (schema.findings fetch v).result =
              .ok (before ++ own.map (.seenFrom valuePath schemaPath) ++ after) ∧
            violations.Perm (told ++ (before ++ after).map .ofFinding)) ∧
      ((schema.validate fetch v).result = .ok () → absent object names = []) := by
  have hwithin := (within_walk hrequired .self).trans hreached
  rw [List.append_nil, List.append_nil] at hwithin
  obtain ⟨own, hl⟩ : ∃ own, (absent object names).map
      (fun name => (Finding.ofAbsent name).under "required") = own := ⟨_, rfl⟩
  have hown : (Evaluator.keywordTrace ⟨fetch, false, walk fetch false depth⟩ depth
      ⟨frame, members, .object object⟩ ("required", .array (names.map .string))).findings.result =
        .ok own := by
    rw [findings_keyword_required hdraft, hl]
  have htold : (own.map (Finding.seenFrom valuePath schemaPath)).map Violation.ofFinding =
      (absent object names).map (Violation.ofAbsent valuePath schemaPath) := by
    rw [← hl, List.map_map, List.map_map]
    exact List.map_congr_left fun name _ => ofFinding_ofAbsent name
  have hkeys : ∀ x ∈ own, x.keyword ≠ none := by
    rw [← hl]
    refine List.forall_mem_map.mpr fun name _ => ?_
    exact Option.some_ne_none "required"
  have hamong : ∀ findings, (schema.findings fetch v).result = .ok findings →
      ∃ before after, findings = before ++ own.map (.seenFrom valuePath schemaPath) ++ after := by
    intro findings hf
    obtain ⟨own', before, after, ho, he⟩ :=
      hwithin.findings (fun own' ho => by cases hown.symm.trans ho; exact hkeys) hf
    cases hown.symm.trans ho
    exact ⟨before, after, he⟩
  refine ⟨own, _, hown, htold, rfl, nodup_pointers (hnames.filter _), ?_, ?_⟩
  · intro uri violations hv
    obtain ⟨-, findings, -, hf, rfl⟩ := validate_violations_iff.mp hv
    obtain ⟨before, after, rfl⟩ := hamong findings hf
    refine ⟨before, after, hf, (List.mergeSort_perm _ _).trans ?_⟩
    rw [List.map_append, List.map_append, List.map_append, htold, List.append_assoc]
    exact List.perm_append_comm_assoc _ _ _
  · intro hv
    obtain ⟨before, after, he⟩ := hamong [] ((schema.validate_ok_iff fetch v).mp hv)
    have hnone := (List.append_eq_nil_iff.mp (List.append_eq_nil_iff.mp he.symm).1).2
    exact List.map_eq_nil_iff.mp (hl.trans (List.map_eq_nil_iff.mp hnone))

/-! ### Names that are hard to tell apart -/

/-- A descent in draft 2020-12 into a schema with neither identifier nor dialect. -/
theorem Walker.within_descend (w : Walker) {schema : Members} (hp : Plain (.object schema)) (depth : Nat)
    (item : Value) (i j : Option Step) :
    (walk w.fetch w.formats depth .draft2020 w.frame (.object schema) item).Within i.toList j.toList
      ((w.evaluator depth).descend w.frame (.object schema) item i j) := by
  have he := w.enter_plain hp
  have hi := w.inside_plain hp
  exact Evaluator.within_descend (e := w.evaluator depth) w.frame he hi i j

def oddNames : List String := ["a", "ab", "", "it's", "\"", "it's \"\\\"", "é\n\x00"]

def oddRequired : Members := [("required", .array (oddNames.map .string))]

def oddPart : Members := [("allOf", .array [.object oddRequired])]

def oddList : Members := [("items", .object oddPart)]

def oddSchema : Compiled :=
  ⟨"odd.json", .draft2020, .object [("properties", .object [("us/ers", .object oddList)])],
    Registry.empty⟩

def oddItem : Members := [("ab", .int 1)]

def oddValue : Value := .object [("us/ers", .array [.object oddItem])]

def oddAbsent : List String := ["a", "", "it's", "\"", "it's \"\\\"", "é\n\x00"]

def oddValuePath : List Step := [.name "us/ers", .index 0]

def oddSchemaPath : List Step :=
  [.name "properties", .name "us/ers", .name "items", .name "allOf", .index 0]

def oddFindings : List Finding := oddAbsent.map fun name =>
  ((Finding.ofAbsent name).under "required").seenFrom oddValuePath oddSchemaPath

def oddViolations : List Violation := [
  ⟨"/us~1ers/0/a", "required", "#/properties/us~1ers/items/allOf/0/required",
    "missing property 'a'"⟩,
  ⟨"/us~1ers/0/", "required", "#/properties/us~1ers/items/allOf/0/required",
    "missing property ''"⟩,
  ⟨"/us~1ers/0/it's", "required", "#/properties/us~1ers/items/allOf/0/required",
    "missing property 'it's'"⟩,
  ⟨"/us~1ers/0/\"", "required", "#/properties/us~1ers/items/allOf/0/required",
    "missing property '\"'"⟩,
  ⟨"/us~1ers/0/it's \"\\\"", "required", "#/properties/us~1ers/items/allOf/0/required",
    "missing property 'it's \"\\\"'"⟩,
  ⟨"/us~1ers/0/é\n\x00", "required", "#/properties/us~1ers/items/allOf/0/required",
    "missing property 'é\n\x00'"⟩]

theorem within_oddSchema (w : Walker) (depth : Nat) :
    (walk w.fetch w.formats depth .draft2020 w.frame (.object oddRequired) (.object oddItem)).Within
      oddValuePath oddSchemaPath
      (walk w.fetch w.formats (depth + 3) .draft2020 w.frame oddSchema.document oddValue) := by
  have hlist : (walk w.fetch w.formats (depth + 2) .draft2020 w.frame (.object oddList)
      (.array [.object oddItem])).Within [.name "us/ers"] (keywordSteps "properties" ++ [.name "us/ers"])
        (walk w.fetch w.formats (depth + 3) .draft2020 w.frame oddSchema.document oddValue) := by
    refine within_walk List.mem_cons_self (Evaluator.within_keyword
      (m := ("properties", .object [("us/ers", .object oddList)])) .properties (by rfl) ?_)
    exact Evaluator.within_properties List.mem_cons_self List.lookup_cons_self
      (w.within_descend (by decide) (depth + 2) _ (some (.name "us/ers")) (some (.name "us/ers")))
  have hitem : (walk w.fetch w.formats (depth + 1) .draft2020 w.frame (.object oddPart)
      (.object oddItem)).Within [.index 0] (keywordSteps "items" ++ [])
        (walk w.fetch w.formats (depth + 2) .draft2020 w.frame (.object oddList)
          (.array [.object oddItem])) := by
    refine within_walk List.mem_cons_self (Evaluator.within_keyword
      (m := ("items", .object oddPart)) .items (by rfl) ?_)
    exact Evaluator.within_items rfl rfl
      (w.within_descend (by decide) (depth + 1) _ (some (.index 0)) none)
  have hpart : (walk w.fetch w.formats depth .draft2020 w.frame (.object oddRequired)
      (.object oddItem)).Within [] (keywordSteps "allOf" ++ [.index 0])
        (walk w.fetch w.formats (depth + 1) .draft2020 w.frame (.object oddPart) (.object oddItem)) := by
    refine within_walk List.mem_cons_self (Evaluator.within_keyword
      (m := ("allOf", .array [.object oddRequired])) .allOf (by rfl) ?_)
    exact Evaluator.within_allOf rfl (w.within_descend (by decide) depth _ none (some (.index 0)))
  have hpath : (keywordSteps "properties" ++ [.name "us/ers"]) ++
      ((keywordSteps "items" ++ []) ++ (keywordSteps "allOf" ++ [.index 0])) = oddSchemaPath := by
    decide +kernel
  rw [← hpath]
  exact (hpart.trans hitem).trans hlist

theorem missing_properties_told_apart_odd :
    ∃ uri violations others,
      (oddSchema.validate fetchNothing oddValue).result = .error (.fault (.violations uri violations)) ∧
      violations.Perm (oddViolations ++ others) := by
  have hf : (oddSchema.findings fetchNothing oddValue).result = .ok oddFindings :=
    eq_ok_of_toOption (by decide +kernel)
  have hv : (oddSchema.validate fetchNothing oddValue).result =
      .error (.fault (.violations "odd.json" (reported oddFindings))) :=
    validate_violations_iff.mpr ⟨rfl, oddFindings, List.cons_ne_nil _ _, hf, rfl⟩
  have hmissing : (absent oddItem oddNames).map (.ofAbsent oddValuePath oddSchemaPath) = oddViolations := by
    decide +kernel
  have hreached := within_oddSchema ⟨fetchNothing, false,
    .ofRoot (MetaSchema.registry.combine oddSchema.registry) ⟨.draft2020, oddSchema.document⟩⟩ 397
  obtain ⟨own, told, -, -, ht, -, htold, -⟩ := missing_properties_told_apart oddSchema fetchNothing
    oddValue (by decide) (List.mem_singleton.mpr rfl) (by decide) hreached
  obtain ⟨before, after, -, hperm⟩ := htold _ _ hv
  rw [ht.trans hmissing] at hperm
  exact ⟨_, _, _, hv, hperm⟩

end Preflight.Schema

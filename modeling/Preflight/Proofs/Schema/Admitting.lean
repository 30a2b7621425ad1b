import Preflight.Proofs.Schema.Vocabularies

/-!
# What the meta-schema asks for

An object passes the meta-schema of draft 2020-12 when each vocabulary admits what it describes: the
values of the object's members, keyword by keyword (`passes_root`, `passes_vocabulary`). What a schema
admits is shown from its keywords, whose subschemas may be `true` here.
-/

namespace Preflight.Schema

open Gateway Json Pattern Resolver

namespace Walker

variable {w : Walker} {depth : Nat} {members node : Members} {target schema : Value}

/-- A value has nothing that a subschema in the frame of the schema around it does not allow. -/
def Admits (w : Walker) (depth : Nat) (schema target : Value) : Prop :=
  schema = .bool true ∨ Plain schema ∧ w.Passes depth schema target

theorem clean_descend_of_admits (h : w.Admits depth schema target) (i j : Option Step) :
    ((w.evaluator depth).descend w.frame schema target i j).Clean := by
  rcases h with rfl | ⟨hp, h⟩
  · exact Trace.clean_done
  · exact (clean_descend hp target i j).mpr h

theorem obeys_properties_of {table : Members}
    (h : ∀ p ∈ table, ∀ v, Members.get? node p.1 = some v → w.Admits depth p.2 v) :
    w.Obeys depth members (.object node) ("properties", .object table) := by
  refine (obeys_iff .properties (by rfl)).mpr ((Trace.clean_each _ table).mpr ?_)
  rintro ⟨name, schema⟩ hm
  cases hv : Members.get? node name with
  | none => simpa only [hv] using Trace.clean_done
  | some v => simpa only [hv] using clean_descend_of_admits (h _ hm v hv) _ _

theorem obeys_allOf_of {schemas : List Value} (h : ∀ s ∈ schemas, w.Admits depth s target) :
    w.Obeys depth members target ("allOf", .array schemas) := by
  refine (obeys_iff .allOf (by rfl)).mpr ((Trace.clean_each _ schemas.zipIdx).mpr ?_)
  rintro ⟨s, i⟩ hm
  exact clean_descend_of_admits (h s (List.fst_mem_of_mem_zipIdx hm)) _ _

theorem obeys_anyOf_of {schemas : List Value} (h : w.Admits depth schema target) :
    w.Obeys depth members target ("anyOf", .array (schema :: schemas)) := by
  refine (obeys_iff .anyOf (by rfl)).mpr ((Trace.clean_after _ _).mpr ?_)
  have hc : ((w.evaluator depth).descendHere w.frame schema target).findings.result = .ok [] :=
    clean_descend_of_admits h none none
  refine ⟨some (schema, schemas), ?_, Trace.clean_done⟩
  exact Run.bind_result_ok_iff.mpr ⟨[], hc, rfl⟩

theorem exists_filterM {α ε : Type} {f : α → Except ε Bool} (hf : ∀ a, ∃ b, f a = .ok b)
    (l : List α) : ∃ kept, l.filterM f = .ok kept := by
  have haux : ∀ acc, ∃ kept, l.filterAuxM f acc = .ok kept := by
    induction l with
    | nil => exact fun acc => ⟨acc, rfl⟩
    | cons a l ih =>
      intro acc
      obtain ⟨b, hb⟩ := hf a
      obtain ⟨kept, hk⟩ := ih (cond b (a :: acc) acc)
      refine ⟨kept, ?_⟩
      rw [List.filterAuxM, hb]
      exact hk
  obtain ⟨kept, hk⟩ := haux []
  refine ⟨kept.reverse, ?_⟩
  rw [List.filterM, hk]
  rfl

/-- All members of an object are additional ones where no keyword is about their names. -/
theorem obeys_additional_of {table : Members} (hp : Members.get? members "properties" = none)
    (hq : Members.get? members "patternProperties" = none)
    (h : ∀ m ∈ node, w.Admits depth (.object table) m.2) :
    w.Obeys depth members (.object node) ("additionalProperties", .object table) := by
  refine (obeys_iff .additionalProperties (by rfl)).mpr ?_
  show ((w.evaluator depth).applyAdditionalProperties ⟨w.frame, members, .object node⟩
    (.object table)).Clean
  obtain ⟨extras, he⟩ : ∃ extras, Evaluator.extraNames members node = .ok extras := by
    unfold Evaluator.extraNames
    rw [hp, hq]
    exact exists_filterM (fun name => ⟨true, rfl⟩) _
  unfold Evaluator.applyAdditionalProperties
  simp only [he]
  refine (Trace.clean_each _ _).mpr fun name hm => ?_
  cases hv : Members.get? node name with
  | none => simpa only [hv] using Trace.clean_done
  | some v => simpa only [hv] using clean_descend_of_admits (h _ (mem_of_get? hv)) _ _

theorem obeys_items_of {items : List Value} (hm : Members.get? members "prefixItems" = none)
    (hs : schema ≠ .bool false) (h : ∀ v ∈ items, w.Admits depth schema v) :
    w.Obeys depth members (.array items) ("items", schema) := by
  refine (obeys_iff .items (by rfl)).mpr ?_
  show ((w.evaluator depth).applyItems ⟨w.frame, members, .array items⟩ schema).Clean
  unfold Evaluator.applyItems
  simp only [hm]
  split
  · exact Trace.clean_done
  · exact absurd rfl hs
  · refine (Trace.clean_each _ _).mpr fun p hp => ?_
    rw [Option.getD_none] at hp
    exact clean_descend_of_admits (h p.1 (List.fst_mem_of_mem_zipIdx hp)) _ _

theorem clean_refer_of_lookup {ref : String} {part : Value} {resolver : Resolver}
    (hl : (w.resolver.lookup w.fetch ref).result = .ok ⟨part, resolver⟩)
    (ho : ∃ members, part = .object members) (hd : Dialect.evaluating .draft2020 part = .ok .draft2020)
    (h : ({ w with resolver } : Walker).Passes depth part target) :
    ((w.evaluator depth).refer w.frame (.string ref) target).Clean := by
  refine (Trace.clean_after _ _).mpr ⟨_, hl, ?_⟩
  obtain ⟨members, rfl⟩ := ho
  refine (Trace.clean_after _ _).mpr ⟨⟨.draft2020, resolver⟩, ?_, (Trace.clean_map _ _).mpr h⟩
  unfold Evaluator.inside frame
  rw [hd]
  rfl

theorem obeys_format_of_ne {format : String} (h : format ≠ "regex") :
    w.Obeys depth members target ("format", .string format) := by
  have hv : checkFormat (.string format) target = .ok none := by
    unfold checkFormat
    split
    · split
      · next heq => exact absurd (Value.string.inj heq) h
      · rfl
    · rfl
  refine (obeys_iff .format (by rfl)).mpr ?_
  show Trace.Clean (if w.formats then .ofVerdict (checkFormat _ target) else .done)
  rw [hv]
  split <;> exact Trace.clean_done

theorem obeys_format_regex {pattern : String} {regex : Regex}
    (h : compilePattern pattern = .ok regex) :
    w.Obeys depth members (.string pattern) ("format", .string "regex") := by
  have hv : checkFormat (.string "regex") (.string pattern) = .ok none := by
    unfold checkFormat
    dsimp only
    rw [h]
    rfl
  refine (obeys_iff .format (by rfl)).mpr ?_
  show Trace.Clean (if w.formats then .ofVerdict (checkFormat _ _) else .done)
  rw [hv]
  split <;> exact Trace.clean_done

theorem obeys_uniqueItems_of {items : List Value} {wanted : Value} (h : distinct items = true) :
    w.Obeys depth members (.array items) ("uniqueItems", wanted) := by
  refine (obeys_iff .uniqueItems (by rfl)).mpr ?_
  show Trace.Clean (.ofVerdict (checkUnique wanted (.array items)))
  rw [Trace.clean_ofVerdict, checkUnique, objection_eq_none, h, Bool.not_true, Bool.and_false]

end Walker

namespace MetaSchema

open Walker

variable {registry : Registry} {x : Vocabulary} {n depth : Nat} {node : Members} {v : Value}
  {keyword : String}

/-- What a document says of the members of objects. -/
def described : Value → Members
  | .object members => members.flatMap fun
    | ("properties", .object table) => table
    | _ => []
  | _ => []

/-- What the vocabularies ask of the value of a keyword. -/
def asked (keyword : String) : List (Vocabulary × Value) :=
  vocabularies.flatMap fun x =>
    ((described x.document).filter (·.1 == keyword)).map fun p => (x, p.2)

def walkerAtRoot (registry : Registry) (n : Nat) : Walker := ⟨fetchNothing, true, atRoot registry n⟩

def walkerIn (registry : Registry) (x : Vocabulary) (n : Nat) : Walker :=
  ⟨fetchNothing, true, inVocabulary registry x n⟩

theorem evaluating_of_root (h : v.get? "$schema" = some (.string rootUrl)) (d : Dialect) :
    Dialect.evaluating d v = .ok .draft2020 := by
  have hn : Url.normalize rootUrl = .ok Dialect.draft2020.uri := eq_ok_of_toOption (by decide +kernel)
  unfold Dialect.evaluating
  rw [h]
  dsimp only
  rw [hn]
  rfl

/-- Whether a keyword of a vocabulary lets objects pass, as far as their members are as described. -/
def isDescribing : String × Value → Bool
  | ("type", .array [.string "object", .string "boolean"]) => true
  | ("properties", .object _) => true
  | (keyword, _) => (Rule.ofKeyword? .draft2020 keyword).isNone

theorem describing_vocabularies : ∀ x ∈ vocabularies, ∃ members, x.document = .object members ∧
    (∀ m ∈ members, isDescribing m = true) ∧
    x.document.get? "$schema" = some (.string rootUrl) := by
  unfold vocabularies
  simp only [List.forall_mem_cons, List.not_mem_nil, false_imp_iff, implies_true, and_true]
  refine ⟨?_, ?_, ?_, ?_, ?_, ?_, ?_⟩ <;>
    exact ⟨_, rfl, List.all_eq_true.mp (by decide +kernel), by rfl⟩

theorem obeys_types {w : Walker} {members : Members} :
    w.Obeys depth members (.object node) ("type", .array [.string "object", .string "boolean"]) :=
  (obeys_iff .typeIn (by rfl)).mpr ((Trace.clean_ofVerdict _).mpr rfl)

theorem passes_vocabulary {w : Walker} (hx : x ∈ vocabularies)
    (h : ∀ m ∈ node, ∀ s, (x, s) ∈ asked m.1 → w.Admits depth s m.2) :
    w.Passes (depth + 1) x.document (.object node) := by
  obtain ⟨members, hm, hd, -⟩ := describing_vocabularies x hx
  rw [hm]
  refine passes_object.mpr fun m hmem => ?_
  have hdm := hd m hmem
  unfold isDescribing at hdm
  split at hdm
  · exact obeys_types
  · next table =>
    refine obeys_properties_of fun p hp v hv => h (p.1, v) (mem_of_get? hv) p.2 ?_
    refine List.mem_flatMap.mpr ⟨x, hx, List.mem_map.mpr ⟨p, List.mem_filter.mpr ⟨?_, ?_⟩, rfl⟩⟩
    · rw [hm]
      exact List.mem_flatMap.mpr ⟨_, hmem, hp⟩
    · exact beq_self_eq_true p.1
  · exact obeys_unknown (Option.isNone_iff_eq_none.mp hdm)

/-- An object passes the meta-schema when it passes the vocabularies, unless it has some members of
former drafts. -/
theorem passes_root (h : KnowsVocabularies registry)
    (hd : ∀ m ∈ node, ∀ p ∈ described Draft2020.root, p.1 ≠ m.1)
    (hv : ∀ x ∈ vocabularies, (walkerIn registry x n).Passes depth x.document (.object node)) :
    (walkerAtRoot registry n).Passes (depth + 2) Draft2020.root (.object node) := by
  have hall : ∀ s ∈ vocabularies.map fun x => Value.object [("$ref", .string x.ref)],
      (walkerAtRoot registry n).Admits (depth + 1) s (.object node) := by
    intro s hs
    obtain ⟨x, hx, rfl⟩ := List.mem_map.mp hs
    obtain ⟨members, hm, -, hschema⟩ := describing_vocabularies x hx
    refine .inr ⟨⟨rfl, rfl⟩, passes_object.mpr (List.forall_mem_singleton.mpr ?_)⟩
    refine (obeys_iff .reference (by rfl)).mpr ?_
    exact clean_refer_of_lookup (lookup_vocabulary h hx n) ⟨members, hm⟩
      (evaluating_of_root hschema _) (hv x hx)
  unfold Draft2020.root
  refine passes_object.mpr ?_
  simp only [List.forall_mem_cons, List.not_mem_nil, false_imp_iff, implies_true, and_true]
  refine ⟨obeys_unknown (by rfl), obeys_unknown (by rfl), obeys_unknown (by rfl),
    obeys_unknown (by rfl), obeys_unknown (by rfl), obeys_allOf_of hall, obeys_types,
    obeys_unknown (by rfl), obeys_properties_of fun p hp v hg => ?_⟩
  exact absurd rfl (hd (p.1, v) (mem_of_get? hg) p hp)

end MetaSchema

end Preflight.Schema

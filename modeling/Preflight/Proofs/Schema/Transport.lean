import Preflight.Proofs.Results
import Preflight.Proofs.Schema.Tidy

/-!
# A document under two locations

A document is compiled under the location it came from, which may become its identifier. For a
self-contained document that makes no difference: under any two locations it compiles or does not, and
says the same of every value (`validate_anywhere`). Loaders are never asked.
-/

namespace Preflight.Schema

open Gateway Json

variable {document : Value} {uri uri₁ uri₂ : String} {d : Dialect} {members : Members}

/-- A location that can be taken apart as a URL and has no fragment. -/
structure IsLocation (uri : String) : Prop where
  wellFormed : ∃ parts, Url.splitUrl uri.toList = .ok parts
  noFragment : '#' ∉ uri.toList

/-- Where the evaluation of a compiled schema starts. -/
def Compiled.home (schema : Compiled) : Resolver :=
  .ofRoot (MetaSchema.registry.combine schema.registry) ⟨schema.dialect, schema.document⟩

/-- What two schemas say of a value, but for the names they go by: both accept it, both find the same
violations, both have a reference that leads nowhere, or both run into one mishap. -/
inductive SameVerdict :
    Except (Failure LintFault) Unit → Except (Failure LintFault) Unit → Prop
  | accepted : SameVerdict (.ok ()) (.ok ())
  | rejected (uri₁ uri₂ : String) (violations : List Violation) :
      SameVerdict (.error (.fault (.violations uri₁ violations)))
        (.error (.fault (.violations uri₂ violations)))
  | unresolved (uri₁ uri₂ : String) (k₁ k₂ : Bool) (fault₁ fault₂ : ReferenceFault) :
      SameVerdict (.error (.fault (.schema (.unresolved uri₁ k₁ fault₁))))
        (.error (.fault (.schema (.unresolved uri₂ k₂ fault₂))))
  | mishap (m : Mishap) : SameVerdict (.error (.mishap m)) (.error (.mishap m))

/-! ### Crawling -/

theorem join_ok {base ref : String} (hb : ∃ parts, Url.splitUrl base.toList = .ok parts)
    (hr : ∃ parts, Url.splitUrl ref.toList = .ok parts) : ∃ joined, Url.join base ref = .ok joined := by
  obtain ⟨b, hb⟩ := hb
  obtain ⟨r, hr⟩ := hr
  unfold Url.join
  rw [hb, hr]
  dsimp only [bind, Except.bind, pure, Except.pure]
  split_ifs <;> exact ⟨_, rfl⟩

theorem subschema_of_mem_subschemas {w : Value} (h : w ∈ d.subschemas (.object members)) :
    Subschema members w := by
  have hdirect : ∀ d : Dialect, ∀ k ∈ d.schemaKeywords ++ d.looseKeywords, k ∈ partKeywords := by
    intro d
    cases d <;> decide
  have hlisted : ∀ d : Dialect, ∀ k ∈ d.listKeywords, k ∈ partKeywords := by
    intro d
    cases d <;> decide
  have htabled : ∀ d : Dialect, ∀ k ∈ d.tableKeywords, k ∈ tableKeywords := by
    intro d
    cases d <;> decide
  unfold Dialect.subschemas at h
  simp only [List.mem_filter, List.mem_append] at h
  obtain ⟨((((h | h) | h) | h) | h) | h, -⟩ := h
  · obtain ⟨k, hk, hg⟩ := List.mem_filterMap.mp h
    exact .whole (hdirect d k (List.mem_append_left _ hk)) (mem_of_get? hg)
  · obtain ⟨k, hk, h⟩ := List.mem_flatMap.mp h
    split at h
    · next items hg => exact .listed (hlisted d k hk) (mem_of_get? hg) h
    · cases h
  · obtain ⟨k, hk, h⟩ := List.mem_flatMap.mp h
    split at h
    · next table hg =>
      obtain ⟨⟨name, w'⟩, hm, rfl⟩ := List.mem_map.mp h
      exact .named (htabled d k hk) (mem_of_get? hg) hm
    · cases h
  · split at h
    · next items _ hg => exact .listed (by decide) (mem_of_get? hg) h
    · next item _ _ hg =>
      rw [List.mem_singleton.mp h]
      exact .whole (by decide) (mem_of_get? hg)
    · cases h
  · split at h
    · next name first rest _ hg =>
      rcases List.mem_cons.mp h with rfl | h
      · exact .named (by decide) (mem_of_get? hg) List.mem_cons_self
      · obtain ⟨⟨name', w'⟩, hm, rfl⟩ := List.mem_map.mp h
        exact .named (by decide) (mem_of_get? hg) (List.mem_cons_of_mem _ hm)
    · cases h
  · obtain ⟨k, hk, hg⟩ := List.mem_filterMap.mp h.1
    exact .whole (hdirect d k (List.mem_append_right _ hk)) (mem_of_get? hg)

/-- A part of a schema is entered in the dialect that it names, or in that of the schema. -/
theorem mem_parts {r part : Resource} (h : part ∈ r.parts) :
    ∃ members, r.contents = .object members ∧ Subschema members part.contents ∧
      part.dialect = Dialect.identifying r.dialect part.contents := by
  obtain ⟨w, hw, rfl⟩ := List.mem_map.mp h
  cases hc : r.contents with
  | object members =>
    rw [hc] at hw
    exact ⟨members, rfl, subschema_of_mem_subschemas hw, rfl⟩
  | _ =>
    rw [hc] at hw
    exact absurd hw (by cases r.dialect <;> exact List.not_mem_nil)

/-- The parts of a document whose schemas have no identifiers are entered under its base. -/
theorem enter_ok (h : SelfContained document) (depth : Nat) :
    ∀ base (r : Resource) registry, SchemaOf document r.dialect r.contents →
      ∃ registry', Registry.enter depth base r registry = .ok registry' := by
  induction depth with
  | zero =>
    intro base r registry _
    exact ⟨registry, rfl⟩
  | succ depth ih =>
    intro base r registry hr
    have hid : r.id? = none := h.anonymous _ _ hr
    unfold Registry.enter Registry.baseInside
    rw [hid]
    refine foldlM_ok (fun part hp registry' => ?_) _
    obtain ⟨members, hc, hw, hd⟩ := mem_parts (List.mem_reverse.mp hp)
    rw [hc] at hr
    refine ih base part registry' ?_
    rw [hd]
    exact .identifiedPart (.part hr hw)

theorem IsLocation.withoutHash (h : IsLocation uri) : Dialect.withoutHash uri = uri := by
  have hs : Text.dropTrailing '#' uri.toList = uri.toList := by
    refine List.rdropWhile_eq_self_iff.mpr fun hl hp => h.noFragment ?_
    have hlast := List.getLast_mem hl
    rw [of_decide_eq_true hp] at hlast
    exact hlast
  unfold Dialect.withoutHash
  rw [hs, String.ofList_toList]

/-- A self-contained document is crawled under any location. -/
theorem crawl_ok (h : SelfContained document) (hu : IsLocation uri) : ∃ registry,
    (Registry.empty.add uri (.ofDocument .usual (anchored uri document))).crawl = .ok registry := by
  have ht := twins_anchored uri document
  have hd : (Resource.ofDocument .usual (anchored uri document)).dialect =
      Dialect.identifying .usual document := identifying_twins ht .usual
  have hroot (registry : Registry) (depth : Nat) : ∃ registry', Registry.enter (depth + 1)
      (Dialect.withoutHash uri) (.ofDocument .usual (anchored uri document)) registry =
        .ok registry' := by
    have hbase : ∃ base, Registry.baseInside (Dialect.withoutHash uri)
        (.ofDocument .usual (anchored uri document)) = .ok base := by
      unfold Registry.baseInside Resource.ofDocument
      rw [identifying_twins ht]
      rcases id?_anchored (h.anonymous _ _ .identified) with hn | ⟨-, hs⟩
      · rw [hn]
        exact ⟨_, rfl⟩
      · rw [hs, hu.withoutHash]
        exact join_ok hu.wellFormed hu.wellFormed
    obtain ⟨base, hb⟩ := hbase
    unfold Registry.enter
    rw [hb]
    refine foldlM_ok (fun part hp registry' => ?_) _
    obtain ⟨members, hc, hw, hpd⟩ := mem_parts (List.mem_reverse.mp hp)
    obtain ⟨members', rfl, hm⟩ := twins_object (show Twins (.object members) document from hc ▸ ht)
    refine enter_ok h depth base part registry' ?_
    rw [hpd, hd]
    exact .identifiedPart (.part .identified (subschema_twins hm hw))
  obtain ⟨registry, hr⟩ := hroot ⟨[(Dialect.withoutHash uri, _)], [], []⟩ _
  refine ⟨registry, ?_⟩
  unfold Registry.crawl Registry.add
  simp only [Registry.empty, List.foldlM_cons, List.foldlM_nil]
  rw [hr]
  rfl

/-! ### Validating -/

variable {s₁ s₂ : Compiled}

/-- A schema evaluates copies of the document it was compiled from. -/
theorem copies_of_compiles (h : SelfContained document) (h₁ : Compiles uri₁ document s₁)
    (h₂ : Compiles uri₂ document s₂) :
    Copies document s₁.document s₂.document s₁.home s₂.home where
  contained := h
  twins₁ := h₁.document_eq ▸ twins_anchored uri₁ document
  twins₂ := h₂.document_eq ▸ twins_anchored uri₂ document
  known := by
    refine ⟨s₁.dialect, h₁.dialect, Resolver.root_known _ _, ?_⟩
    have hd : s₁.dialect = s₂.dialect := h₁.dialect_eq h₂.dialect
    rw [hd]
    exact Resolver.root_known _ _

theorem alike_findings_of_compiles (h : SelfContained document) (h₁ : Compiles uri₁ document s₁)
    (h₂ : Compiles uri₂ document s₂) (fetch₁ fetch₂ : Fetch) (v : Value) :
    Search.Alike SameStop Eq (s₁.findings fetch₁ v) (s₂.findings fetch₂ v) := by
  have hcopies := copies_of_compiles h h₁ h₂
  have hd : s₁.dialect = s₂.dialect := h₁.dialect_eq h₂.dialect
  have hroot : SamePlace document s₁.document s₂.document s₁.home s₂.home
      ⟨s₁.dialect, s₁.home⟩ s₁.document ⟨s₂.dialect, s₂.home⟩ s₂.document :=
    ⟨hd, ⟨rfl, rfl⟩, ⟨rfl, rfl⟩, .roots (.evaluated h₁.dialect)⟩
  have hwalk := alike_walk (hcopies.correspondence fetch₁ fetch₂) false maxDepth hroot s₁.dialect v
  have hright : walk fetch₂ false maxDepth s₁.dialect ⟨s₂.dialect, s₂.home⟩ s₂.document v =
      walk fetch₂ false maxDepth s₂.dialect ⟨s₂.dialect, s₂.home⟩ s₂.document v := by
    rw [hd]
  rw [hright] at hwalk
  exact Trace.alike_findings hwalk

theorem validate_events (schema : Compiled) (fetch : Fetch) (v : Value) :
    (schema.validate fetch v).events = (schema.findings fetch v).events := by
  unfold Compiled.validate
  cases hf : (schema.findings fetch v).result with
  | error stop =>
    rw [Run.bind_of_error _ (by rw [Run.mapError, hf]; rfl)]
    rfl
  | ok findings =>
    rw [Run.bind_of_ok _ (mapError_ok_iff.mpr hf)]
    cases findings with
    | nil => exact List.append_nil _
    | cons x findings => exact List.append_nil _

/-- Nothing is fetched for a self-contained document. -/
theorem findings_events (h : SelfContained document) (h₁ : Compiles uri₁ document s₁) (fetch : Fetch)
    (v : Value) : (s₁.findings fetch v).events = [] := by
  have hnothing : (s₁.findings fetchNothing v).Shows fun _ => False :=
    Trace.shows_findings (shows_evaluate (fun url => shows_fetchNothing url) _ _ _ _ _)
  rw [(alike_findings_of_compiles h h₁ h₁ fetch fetchNothing v).events]
  exact List.eq_nil_iff_forall_not_mem.mpr hnothing

theorem sameVerdict_of_alike {fetch₁ fetch₂ : Fetch} {v : Value}
    (h : Search.Alike SameStop Eq (s₁.findings fetch₁ v) (s₂.findings fetch₂ v)) :
    SameVerdict (s₁.validate fetch₁ v).result (s₂.validate fetch₂ v).result := by
  unfold Compiled.validate
  rcases h.result.both with ⟨findings, _, hf₁, hf₂, rfl⟩ | ⟨r, s, hr, hs, hrs⟩
  · rw [Run.bind_of_ok _ (mapError_ok_iff.mpr hf₁), Run.bind_of_ok _ (mapError_ok_iff.mpr hf₂)]
    cases findings with
    | nil => exact .accepted
    | cons x findings => exact .rejected _ _ _
  · rw [Run.bind_of_error _ (by rw [Run.mapError, hr]; rfl),
      Run.bind_of_error _ (by rw [Run.mapError, hs]; rfl)]
    cases hrs with
    | unresolved => exact .unresolved _ _ _ _ _ _
    | mishap m => exact .mishap m

/-- A self-contained document compiles under both of two locations or under neither, and then says the
same of every value, whatever the loaders would give; they are not asked. -/
theorem validate_anywhere (h : SelfContained document) (h₁ : IsLocation uri₁) (h₂ : IsLocation uri₂) :
    ((∃ s₁, (compile uri₁ document).result = .ok s₁) ↔
      ∃ s₂, (compile uri₂ document).result = .ok s₂) ∧
    ∀ s₁ s₂, (compile uri₁ document).result = .ok s₁ → (compile uri₂ document).result = .ok s₂ →
      ∀ fetch₁ fetch₂ v,
        SameVerdict (s₁.validate fetch₁ v).result (s₂.validate fetch₂ v).result ∧
        (s₁.validate fetch₁ v).events = [] ∧ (s₂.validate fetch₂ v).events = [] := by
  have hcompile {uri uri' : String} (hu : IsLocation uri') {s : Compiled}
      (hs : (compile uri document).result = .ok s) :
      ∃ s', (compile uri' document).result = .ok s' := by
    have hc := compile_ok_iff.mp hs
    obtain ⟨registry, hr⟩ := crawl_ok h hu
    exact ⟨⟨uri', s.dialect, anchored uri' document, registry⟩,
      compile_ok_iff.mpr ⟨hc.isSchema, hc.dialect, hc.allowed, hr, rfl, rfl⟩⟩
  refine ⟨⟨fun ⟨_, hs⟩ => hcompile h₂ hs, fun ⟨_, hs⟩ => hcompile h₁ hs⟩, ?_⟩
  intro s₁ s₂ hs₁ hs₂ fetch₁ fetch₂ v
  have hc₁ := compile_ok_iff.mp hs₁
  have hc₂ := compile_ok_iff.mp hs₂
  refine ⟨sameVerdict_of_alike (alike_findings_of_compiles h hc₁ hc₂ fetch₁ fetch₂ v), ?_, ?_⟩
  · rw [validate_events, findings_events h hc₁]
  · rw [validate_events, findings_events h hc₂]

/-! ### Documents that are compiled under two locations -/

/-- How a validation ends, without names and findings. -/
inductive Ending
  | accepted
  | rejected
  | unresolved
  | failed
  | mishap (m : Mishap)
  deriving DecidableEq, Repr

def ending : Except (Failure LintFault) Unit → Ending
  | .ok () => .accepted
  | .error (.fault (.violations ..)) => .rejected
  | .error (.fault (.schema (.unresolved ..))) => .unresolved
  | .error (.fault (.schema _)) => .failed
  | .error (.mishap m) => .mishap m

theorem SameVerdict.ending_eq {r s : Except (Failure LintFault) Unit} (h : SameVerdict r s) :
    ending r = ending s := by
  cases h <;> rfl

/-- How the validation of a value ends if the document compiles. -/
def endingUnder (fetch : Fetch) (uri : String) (document v : Value) : Option Ending :=
  (compile uri document).result.toOption.map fun schema => ending (schema.validate fetch v).result

theorem exists_of_endingUnder {fetch : Fetch} {v : Value} {e : Ending}
    (h : endingUnder fetch uri document v = some e) :
    ∃ schema, (compile uri document).result = .ok schema ∧
      ending (schema.validate fetch v).result = e := by
  obtain ⟨schema, hs, he⟩ := Option.map_eq_some_iff.mp h
  cases hc : (compile uri document).result with
  | error failure =>
    rw [hc] at hs
    cases hs
  | ok schema' =>
    rw [hc] at hs
    cases hs
    exact ⟨schema, rfl, he⟩

def draft4Member : String × Value := ("$schema", .string "http://json-schema.org/draft-04/schema#")

def wholesSchema : Value := .object [draft4Member,
  ("definitions", .object [("whole", .object [("type", .string "integer")])]),
  ("additionalProperties", .object [("$ref", .string "#/definitions/whole")])]

theorem isLocation_name : IsLocation "schema.json" :=
  ⟨⟨⟨[], [], "schema.json".toList, [], []⟩, eq_ok_of_toOption (by decide +kernel)⟩, by decide +kernel⟩

theorem isLocation_file : IsLocation "file:///schema.json" :=
  ⟨⟨⟨"file".toList, [], "/schema.json".toList, [], []⟩, eq_ok_of_toOption (by decide +kernel)⟩,
    by decide +kernel⟩

/-- Under a plain name and under the address of a file, a text is no whole number. -/
theorem validate_wholes_anywhere :
    SelfContained wholesSchema ∧ IsLocation "schema.json" ∧ IsLocation "file:///schema.json" ∧
      ∃ s₁ s₂, (compile "schema.json" wholesSchema).result = .ok s₁ ∧
        (compile "file:///schema.json" wholesSchema).result = .ok s₂ ∧
        (let v : Value := .object [("n", .string "one")]
        ending (s₁.validate fetchNothing v).result = .rejected ∧
          SameVerdict (s₁.validate fetchNothing v).result (s₂.validate fetchNothing v).result) := by
  have hself : SelfContained wholesSchema := selfContained_of_isTidy (by decide +kernel)
  obtain ⟨hcompile, hverdict⟩ := validate_anywhere hself isLocation_name isLocation_file
  obtain ⟨s₁, h₁, hrejected⟩ := exists_of_endingUnder
    (show endingUnder fetchNothing "schema.json" wholesSchema (.object [("n", .string "one")]) =
      some .rejected by decide +kernel)
  obtain ⟨s₂, h₂⟩ := hcompile.mp ⟨s₁, h₁⟩
  exact ⟨hself, isLocation_name, isLocation_file, s₁, s₂, h₁, h₂, hrejected,
    (hverdict s₁ s₂ h₁ h₂ fetchNothing fetchNothing _).1⟩

/-- A reference through the identifier that a document gets from its location. -/
def throughIdentifier : Value := .object [draft4Member, ("$ref", .string "#/$id/x")]

def circular : Value := .object [draft4Member, ("$ref", .string "#")]

/-- A reference through the identifier leads nowhere from a plain name, and makes a mishap under the
address of a file. A circle of references is a mishap, too. -/
theorem verdict_through_identifier :
    (∃ s₁ s₂, (compile "schema.json" throughIdentifier).result = .ok s₁ ∧
      (compile "file:///schema.json" throughIdentifier).result = .ok s₂ ∧
      ending (s₁.validate fetchNothing (.int 1)).result = .unresolved ∧
      ¬ SameVerdict (s₁.validate fetchNothing (.int 1)).result
        (s₂.validate fetchNothing (.int 1)).result) ∧
    ∃ s, (compile "schema.json" circular).result = .ok s ∧
      ending (s.validate fetchNothing (.int 1)).result = .mishap .endless := by
  constructor
  · obtain ⟨s₁, h₁, he₁⟩ := exists_of_endingUnder (show endingUnder fetchNothing "schema.json"
      throughIdentifier (.int 1) = some .unresolved by decide +kernel)
    obtain ⟨s₂, h₂, he₂⟩ := exists_of_endingUnder (show endingUnder fetchNothing "file:///schema.json"
      throughIdentifier (.int 1) = some (.mishap (.notAnInteger "x")) by decide +kernel)
    refine ⟨s₁, s₂, h₁, h₂, he₁, fun h => ?_⟩
    have he := h.ending_eq
    rw [he₁, he₂] at he
    cases he
  · exact exists_of_endingUnder (show endingUnder fetchNothing "schema.json" circular (.int 1) =
      some (.mishap .endless) by decide +kernel)

end Preflight.Schema

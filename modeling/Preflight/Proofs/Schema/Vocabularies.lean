import Preflight.Proofs.Schema.Anchoring
import Preflight.Proofs.Schema.Keywords
import Preflight.Proofs.Schema.MetaRegistry

/-!
# The vocabularies of draft 2020-12

The meta-schema of draft 2020-12 refers to one document for each vocabulary, and these refer back to
it by its dynamic anchor. An evaluation that starts at the meta-schema stands either there (`atRoot`) or
in a vocabulary (`inVocabulary`), and keeps in mind how often it went from the one to the other: that has
no say in what references lead to.
-/

namespace Preflight.Schema.MetaSchema

open Gateway Json Resolver Text

/-- A document that the meta-schema refers to. -/
structure Vocabulary where
  ref : String
  url : String
  document : Value

def core : Vocabulary :=
  ⟨"meta/core", "https://json-schema.org/draft/2020-12/meta/core", Draft2020.core⟩

def applicator : Vocabulary :=
  ⟨"meta/applicator", "https://json-schema.org/draft/2020-12/meta/applicator", Draft2020.applicator⟩

def unevaluated : Vocabulary :=
  ⟨"meta/unevaluated", "https://json-schema.org/draft/2020-12/meta/unevaluated",
    Draft2020.unevaluated⟩

def validation : Vocabulary :=
  ⟨"meta/validation", "https://json-schema.org/draft/2020-12/meta/validation", Draft2020.validation⟩

def metaData : Vocabulary :=
  ⟨"meta/meta-data", "https://json-schema.org/draft/2020-12/meta/meta-data", Draft2020.metaData⟩

def formatAnnotation : Vocabulary :=
  ⟨"meta/format-annotation", "https://json-schema.org/draft/2020-12/meta/format-annotation",
    Draft2020.formatAnnotation⟩

def content : Vocabulary :=
  ⟨"meta/content", "https://json-schema.org/draft/2020-12/meta/content", Draft2020.content⟩

def vocabularies : List Vocabulary :=
  [core, applicator, unevaluated, validation, metaData, formatAnnotation, content]

def rootUrl : String := "https://json-schema.org/draft/2020-12/schema"

def rootResource : Resource := ⟨.draft2020, Draft2020.root⟩

def Vocabulary.resource (x : Vocabulary) : Resource := ⟨.draft2020, x.document⟩

variable {fetch : Fetch} {n : Nat} {x : Vocabulary} {registry : Registry}

/-! ### What is known of the documents -/

/-- A registry knows the meta-schema and the vocabularies. -/
structure KnowsVocabularies (registry : Registry) : Prop where
  root : registry.resource? rootUrl = some rootResource
  rootAnchor : registry.anchor? rootUrl "meta" = some ⟨rootResource, true⟩
  resource : ∀ x ∈ vocabularies, registry.resource? x.url = some x.resource
  anchor : ∀ x ∈ vocabularies, registry.anchor? x.url "meta" = some ⟨x.resource, true⟩

theorem rootResource_mem : (rootUrl, rootResource) ∈ byUrl := List.mem_of_getElem? (i := 11) rfl

theorem resource_mem (hx : x ∈ vocabularies) : (x.url, x.resource) ∈ byUrl := by
  have hdrop : byUrl.drop 12 = vocabularies.map fun x => (x.url, x.resource) := rfl
  refine List.mem_of_mem_drop (i := 12) ?_
  rw [hdrop]
  exact List.mem_map_of_mem hx

theorem id?_rootResource : rootResource.id? = some rootUrl :=
  (mem_byUrl knownBy_urls _ rootResource_mem).id_eq

theorem withoutHash_rootUrl : Dialect.withoutHash rootUrl = rootUrl :=
  (mem_byUrl knownBy_urls _ rootResource_mem).withoutHash

theorem anchors_vocabularies : ∀ x ∈ vocabularies,
    x.resource.dialect.anchors x.resource.contents = [("meta", true)] := by
  unfold vocabularies
  simp only [List.forall_mem_cons, List.not_mem_nil, false_imp_iff, implies_true, and_true]
  refine ⟨?_, ?_, ?_, ?_, ?_, ?_, ?_⟩ <;> rfl

theorem resource?_add_root {url : String} {r : Resource} (h : registry.resource? url = some r)
    (hr : registry.resource? rootUrl = some rootResource) :
    (registry.add rootUrl rootResource).resource? url = some r := by
  unfold Registry.add Registry.resource?
  rw [withoutHash_rootUrl]
  by_cases hu : url = rootUrl
  · subst hu
    rw [List.lookup_cons_self, ← hr, h]
  · rw [List.lookup_cons, beq_eq_false_iff_ne.mpr hu]
    exact h

theorem knowsVocabularies_add (h : KnowsVocabularies registry) :
    KnowsVocabularies (registry.add rootUrl rootResource) where
  root := resource?_add_root h.root h.root
  rootAnchor := h.rootAnchor
  resource x hx := resource?_add_root (h.resource x hx) h.root
  anchor := h.anchor

theorem knowsVocabularies_registry : KnowsVocabularies MetaSchema.registry where
  root := resource?_registry rootResource_mem
  rootAnchor := anchor?_registry rootResource_mem (by rfl)
  resource x hx := resource?_registry (resource_mem hx)
  anchor x hx := anchor?_registry (resource_mem hx) (anchors_vocabularies x hx)

/-! ### What references lead to -/

/-- At the meta-schema, after having gone from it to a vocabulary some times. -/
def atRoot (registry : Registry) (n : Nat) : Resolver :=
  ⟨registry, rootUrl, List.replicate n rootUrl⟩

/-- In a vocabulary, after having gone there once more. -/
def inVocabulary (registry : Registry) (x : Vocabulary) (n : Nat) : Resolver :=
  ⟨registry, x.url, List.replicate (n + 1) rootUrl⟩

theorem ofRoot_rootResource :
    ofRoot registry rootResource = atRoot (registry.add rootUrl rootResource) 0 := by
  unfold ofRoot
  rw [id?_rootResource]
  rfl

/-- How the URLs of a vocabulary and of the meta-schema are made of each other. -/
structure Vocabulary.Found (x : Vocabulary) : Prop where
  ne_root : x.url ≠ rootUrl
  relative : x.ref.toList.head? ≠ some '#'
  join_eq : Url.join rootUrl x.ref = .ok x.url
  cut_eq : Url.cutFragment x.url = .ok (x.url, "")
  back : Url.join x.url rootUrl = .ok rootUrl

theorem cutFragment_plain {url : List Char} (h : url.contains '#' = false) :
    Url.cutFragment (String.ofList url) = .ok (String.ofList url, "") := by
  unfold Url.cutFragment
  rw [String.toList_ofList, h]
  rfl

theorem Vocabulary.Found.of_chars {url root : List Char} (hx : x.url = String.ofList url)
    (hr : rootUrl = String.ofList root) (hne : url ≠ root) (hu : isUsualUrl url = true)
    (ht : isUsualUrl root = true) (hf : url.contains '#' = false)
    (hh : x.ref.toList.head? ≠ some '#') (hj : (Url.join rootUrl x.ref).toOption = some x.url) :
    x.Found where
  ne_root h := hne (String.ofList_injective (hx.symm.trans (h.trans hr)))
  relative := hh
  join_eq := eq_ok_of_toOption hj
  cut_eq := hx ▸ cutFragment_plain hf
  back := by
    rw [hx, hr]
    exact join_usual hu ht

theorem found_vocabularies : ∀ x ∈ vocabularies, x.Found := by
  unfold vocabularies
  simp only [List.forall_mem_cons, List.not_mem_nil, false_imp_iff, implies_true, and_true]
  refine ⟨?_, ?_, ?_, ?_, ?_, ?_, ?_⟩
  all_goals
    exact .of_chars (by rfl) (by rfl) (by decide +kernel) (by decide +kernel) (by decide +kernel)
      (by decide +kernel) (by decide +kernel) (by decide +kernel)

theorem lookup_vocabulary (h : KnowsVocabularies registry) (hx : x ∈ vocabularies) (n : Nat) :
    (lookup fetch (atRoot registry n) x.ref).result =
      .ok ⟨x.document, inVocabulary registry x n⟩ := by
  have hf := found_vocabularies x hx
  have hkeeps : (rootUrl != "" && ((List.replicate n rootUrl).isEmpty || x.url != rootUrl)) =
      true := by
    rw [bne_iff_ne.mpr hf.ne_root, Bool.or_true, Bool.and_true]
    decide +kernel
  have hm : (atRoot registry n).moveTo registry x.url = inVocabulary registry x n := by
    unfold moveTo atRoot
    dsimp only
    rw [hkeeps]
    rfl
  have hr : retrieve fetch registry x.ref x.url = _ := retrieve_known (h.resource x hx) x.ref
  rw [lookup_eq (target_relative hf.relative hf.join_eq hf.cut_eq)]
  show (retrieve fetch registry x.ref x.url >>= _).result = _
  rw [hr, Run.bind_of_ok _ rfl]
  exact congrArg (fun resolver => Except.ok (Resolved.mk x.document resolver)) hm

/-- A reference within a vocabulary stays there. -/
theorem moveTo_inVocabulary :
    (inVocabulary registry x n).moveTo registry x.url = inVocabulary registry x n := by
  unfold moveTo inVocabulary
  dsimp only
  rw [bne_self_eq_false, List.replicate_succ, List.isEmpty_cons, Bool.or_false, Bool.and_false]
  rfl

theorem outermost_replicate {name : String} {anchor : Anchor}
    (ha : registry.anchor? rootUrl name = some anchor) (hd : anchor.dynamic = true)
    (n : Nat) : ∀ r, (outermost registry name r (List.replicate (n + 1) rootUrl)).result =
      .ok anchor.resource := by
  have hf : findAnchor registry rootUrl name = pure (registry, anchor) := by
    unfold findAnchor
    rw [ha]
  induction n with
  | zero =>
    intro r
    rw [List.replicate_one, outermost, hf]
    show (outermost registry name (if anchor.dynamic then anchor.resource else r) []).result = _
    rw [hd]
    rfl
  | succ n ih =>
    intro r
    rw [List.replicate_succ, outermost, hf]
    exact ih _

theorem lookup_meta (h : KnowsVocabularies registry) (hx : x ∈ vocabularies) (n : Nat) :
    (lookup fetch (inVocabulary registry x n) "#meta").result =
      .ok ⟨Draft2020.root, atRoot registry (n + 1)⟩ := by
  have hf := found_vocabularies x hx
  have ht : (inVocabulary registry x n).target "#meta" = pure (x.url, "meta") :=
    target_fragment _ [ 'm', 'e', 't', 'a']
  have hr : retrieve fetch registry "#meta" x.url = _ := retrieve_known (h.resource x hx) "#meta"
  have ha : findAnchor registry x.url "meta" = pure (registry, ⟨x.resource, true⟩) := by
    unfold findAnchor
    rw [h.anchor x hx]
  have ho := outermost_replicate h.rootAnchor rfl n x.resource
  have he : ((inVocabulary registry x n).enter rootResource).result =
      .ok (atRoot registry (n + 1)) := by
    unfold enter
    rw [id?_rootResource]
    show (Search.ofUrl (Url.join x.url rootUrl) >>= _).result = _
    rw [hf.back]
    rfl
  rw [lookup_eq ht]
  show (retrieve fetch registry "#meta" x.url >>= _).result = _
  rw [hr, Run.bind_of_ok _ rfl]
  show (findAnchor registry x.url "meta" >>= _).result = _
  rw [ha, Run.bind_of_ok _ rfl]
  show (resolveAnchor ((inVocabulary registry x n).moveTo registry x.url) "meta" _).result = _
  rw [moveTo_inVocabulary]
  refine Run.bind_result_ok_iff.mpr ⟨_, ho, ?_⟩
  exact Run.bind_result_ok_iff.mpr ⟨_, he, rfl⟩

/-- A vocabulary has a definition of a name. -/
structure Vocabulary.Defines (x : Vocabulary) (name : String) (part : Members) : Prop where
  found : ∃ defs, x.document.get? "$defs" = some defs ∧ Dialect.text? defs "$id" = none ∧
    defs.get? name = some (.object part)
  plain : Plain (.object part)
  unescaped : String.ofList (unescapeStep name.toList) = name
  steps_eq : pointerSteps ("/$defs/" ++ name) = ["$defs", name]

theorem Vocabulary.Defines.of_chars {name : String} {chars : List Char} {part : Members}
    (hn : name = String.ofList chars) (hs : IsStep chars)
    (hf : ∃ defs, x.document.get? "$defs" = some defs ∧ Dialect.text? defs "$id" = none ∧
      defs.get? name = some (.object part)) (hp : Plain (.object part)) : x.Defines name part where
  found := hf
  plain := hp
  unescaped := by rw [hn, String.toList_ofList, unescapeStep_of_isStep hs]
  steps_eq := pointerSteps_definition (by rwa [hn, String.toList_ofList])

theorem lookup_part (h : KnowsVocabularies registry) (hx : x ∈ vocabularies) (n : Nat)
    {name : String} {part : Members} (hp : x.Defines name part) :
    (lookup fetch (inVocabulary registry x n) ("#/$defs/" ++ name)).result =
      .ok ⟨.object part, inVocabulary registry x n⟩ := by
  obtain ⟨defs, hd, hi, hg⟩ := hp.found
  have href : ("#/$defs/" ++ name).toList = '#' :: '/' :: ("$defs/" ++ name).toList := by
    simp only [String.toList_append]
    rfl
  have hpointer : String.ofList ('/' :: ("$defs/" ++ name).toList) = "/$defs/" ++ name := by
    have hslash : ("/$defs/" ++ name).toList = '/' :: ("$defs/" ++ name).toList := by
      simp only [String.toList_append]
      rfl
    rw [← hslash, String.ofList_toList]
  rw [lookup_pointer href (h.resource x hx), hpointer, hp.steps_eq]
  show (follow _ _ ((inVocabulary registry x n).moveTo registry x.url) [] x.document _).result = _
  rw [follow_cons (by decide +kernel) hd (id?_eq_none hi),
    follow_cons hp.unescaped hg (id?_eq_none hp.plain.id_eq_none)]
  show Except.ok (Resolved.mk (.object part) ((inVocabulary registry x n).moveTo registry x.url)) = _
  rw [moveTo_inVocabulary]

end Preflight.Schema.MetaSchema

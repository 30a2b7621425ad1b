import Preflight.Proofs.Schema.Knowing
import Preflight.Proofs.Schema.Transport
import Preflight.Proofs.Schema.Visiting
import Preflight.Proofs.Url.Fragment

/-!
# Where relative references start

A document that is compiled under a URL gets it as `$id`, and the dialects from draft 6 on start relative
references there; in drafts 6 and 7 not if the document has a `$ref` of its own. Drafts 3 and 4 look
for `id`, so there relative references are taken as they are. At every place that an evaluation comes
to without passing another identifier, references start from the same base (`references_from_location`).
-/

namespace Preflight.Schema

open Gateway Json Resolver Text

variable {fetch : Fetch} {schema : Compiled} {uri : String} {members : Members} {f : Frame} {s : Value}

/-- Whether the location of a document becomes its identifier. -/
def Dialect.takesLocation (d : Dialect) (members : Members) (uri : String) : Bool :=
  d.idKeyword == "$id" &&
    !(d.refHidesSiblings &&
      ((Members.get? members "$ref").isSome || uri.toList.head? == some '#'))

/-- The base of the references of a document without an identifier. -/
def Dialect.referenceBase (d : Dialect) (members : Members) (uri : String) : String :=
  if d.takesLocation members uri then withoutHash uri else ""

def Compiled.root (schema : Compiled) : Resource := ⟨schema.dialect, schema.document⟩

/-- The frame that the evaluation of a compiled schema starts in. -/
def Compiled.start (schema : Compiled) : Frame := ⟨schema.dialect, schema.home⟩

/-- The way of a fragment through a document passes no identifier. -/
inductive Straight (root : Resource) : String → Value → Prop
  | whole {found : Value} : Straight root "" found
  | pointer {fragment : String} {pointer : List Char} {found : Value} :
      fragment.toList = '/' :: pointer →
      (∀ v, Passes root.contents (pointerSteps fragment) v →
        (Resource.mk root.dialect v).id? = none) →
      Straight root fragment found
  | name {fragment : String} {c : Char} {rest : List Char} {found : Value} :
      fragment.toList = c :: rest → c ≠ '/' → (∀ d, (Resource.mk d found).id? = none) →
      Straight root fragment found

/-- The places of an evaluation that are in the document it starts with and outside its identified
parts: the document, parts without an identifier, and what references to the document lead to, from
wherever they are made. -/
inductive AtHome (fetch : Fetch) (schema : Compiled) : Frame → Value → Prop
  | document : AtHome fetch schema schema.start schema.document
  | part {f : Frame} {members : Members} {w : Value} {d : Dialect} :
      AtHome fetch schema f (.object members) → Subschema members w →
      (Resource.mk f.dialect w).id? = none → Dialect.evaluating f.dialect w = .ok d →
      AtHome fetch schema ⟨d, f.resolver⟩ w
  | counted {f : Frame} {members : Members} {w : Value} :
      AtHome fetch schema f (.object members) → Subschema members w →
      (Resource.mk f.dialect w).id? = none → AtHome fetch schema f w
  | back {f : Frame} {members : Members} {keyword ref fragment : String} {found : Resolved}
      {d : Dialect} :
      Visited fetch schema.start schema.document f (.object members) →
      keyword ∈ ["$ref", "$dynamicRef"] → (keyword, .string ref) ∈ members →
      f.resolver.target ref = pure (schema.home.base, fragment) →
      f.resolver.registry.resource? schema.home.base = some schema.root →
      Straight schema.root fragment found.contents →
      (f.resolver.lookup fetch ref).result = .ok found →
      Dialect.evaluating f.dialect found.contents = .ok d →
      AtHome fetch schema ⟨d, found.resolver⟩ found.contents
  | recur {f : Frame} {members : Members} {v : Value} {found : Resolved} {d : Dialect} :
      AtHome fetch schema f (.object members) → ("$recursiveRef", v) ∈ members →
      f.resolver.registry.resource? schema.home.base = some schema.root →
      (isRecursive schema.document = true →
        ∀ uri ∈ f.resolver.scope, f.resolver.target uri = pure (schema.home.base, "")) →
      (f.resolver.lookupRecursive fetch).result = .ok found →
      Dialect.evaluating f.dialect found.contents = .ok d →
      AtHome fetch schema ⟨d, found.resolver⟩ found.contents

/-- What looking up a reference does, given the URL of its document and its fragment. -/
structure ResolvedAt (fetch : Fetch) (resolver : Resolver) (ref url fragment : String) : Prop where
  known : resolver.registry.Knows url → (resolver.lookup fetch ref).events = []
  asked : ∀ crawled, resolver.registry.crawl = .ok crawled → ¬ resolver.registry.Knows url →
    (resolver.lookup fetch ref).events = (fetch url).events
  only : ∀ fetch', fetch url = fetch' url → resolver.lookup fetch ref = resolver.lookup fetch' ref
  whole : fragment = "" → ∀ found, (resolver.lookup fetch ref).result = .ok found →
    found.resolver.base = url
  resolvable : fragment = "" → ∀ document, (fetch url).result = .ok document →
    ∀ k fault, (resolver.lookup fetch ref).result ≠ .error (.unresolved k fault)

/-- How references are resolved from a base: those within the document ask for nothing, and the others
are joined to the base. -/
structure ReferencesFrom (fetch : Fetch) (base : String) (resolver : Resolver) : Prop where
  base_eq : resolver.base = base
  known : resolver.registry.Knows base
  within : ∀ fragment, (resolver.lookup fetch (String.ofList ('#' :: fragment))).events = []
  relative : ∀ ref joined url fragment, ref.toList.head? ≠ some '#' →
    Url.join base ref = .ok joined → Url.cutFragment joined = .ok (url, fragment) →
    ResolvedAt fetch resolver ref url fragment

/-! ### The base at the start -/

theorem home_base (h : Compiles uri (.object members) schema)
    (hid : Members.has members schema.dialect.idKeyword = false)
    (hu : looksAbsolute uri.toList = true) :
    schema.home.base = schema.dialect.referenceBase members uri := by
  show ((Resource.mk schema.dialect schema.document).id?).getD "" = _
  rw [h.document_eq]
  unfold Dialect.referenceBase Dialect.takesLocation
  by_cases hk : schema.dialect.idKeyword = "$id"
  · rw [hk] at hid
    have hanchored : anchored uri (.object members) =
        .object (members ++ [("$id", .string uri)]) := by
      unfold anchored
      simp [hid, hu]
    rw [hanchored, id?_located hk hid, hk]
    split
    · next hc => simp [hc]
    · next hc => simp [hc]
  · have hnone : (Resource.mk schema.dialect (.object members)).id? = none := by
      have hg : (Value.object members).get? schema.dialect.idKeyword = none :=
        Option.isNone_iff_eq_none.mp (Option.isSome_eq_false_iff.mp hid)
      unfold Resource.id? Dialect.identifier? Dialect.text?
      rw [hg]
    rw [id?_twins (twins_anchored uri _) hk, hnone]
    simp [hk]

/-! ### The base on the way -/

theorem follow_straight {r : Resource} {resolver : Resolver} {pointer : String}
    {walked steps : List String} {contents : Value} {found : Resolved}
    (hway : ∀ v, Passes contents steps v → (Resource.mk r.dialect v).id? = none)
    (h : (follow r pointer resolver walked contents steps).result = .ok found) :
    found.resolver = resolver := by
  have halike := (alike_follow rfl rfl resolver resolver pointer steps contents walked walked hway).result
  rw [h] at halike
  cases halike with
  | ok hf => exact hf.2.1

theorem resolveAnchor_straight {resolver : Resolver} {name : String} {anchor : Anchor}
    {found : Resolved} (hid : ∀ d, (Resource.mk d found.contents).id? = none)
    (h : (resolveAnchor resolver name anchor).result = .ok found) :
    found.resolver.base = resolver.base := by
  unfold resolveAnchor at h
  split at h
  · obtain ⟨r, -, h⟩ := Run.bind_result_ok_iff.mp h
    obtain ⟨inside, hi, h⟩ := Run.bind_result_ok_iff.mp h
    cases h
    rw [enter_anonymous (hid r.dialect)] at hi
    cases hi
    rfl
  · cases h
    rfl

theorem lookup_straight {resolver : Resolver} {root : Resource} {ref url fragment : String}
    {found : Resolved} (ht : resolver.target ref = pure (url, fragment))
    (hr : resolver.registry.resource? url = some root) (hs : Straight root fragment found.contents)
    (h : (resolver.lookup fetch ref).result = .ok found) : found.resolver.base = url := by
  cases hs with
  | whole => exact lookup_whole_base ht h
  | pointer hf hway =>
    rw [lookup_eq ht, retrieve_known hr, Run.bind_of_ok _ rfl] at h
    simp only [hf] at h
    rw [follow_straight hway h]
    rfl
  | name hf hc hid =>
    rw [lookup_eq ht, retrieve_known hr, Run.bind_of_ok _ rfl] at h
    simp only [hf] at h
    split at h
    · cases ‹_ :: _ = []›
    · next heq => exact absurd (List.cons.inj heq).1 hc
    · obtain ⟨⟨registry, anchor⟩, -, h⟩ := Run.bind_result_ok_iff.mp h
      exact resolveAnchor_straight hid h

theorem outermostRecursive_base {resolver : Resolver} {url : String} (uris : List String) :
    ∀ {first found : Resolved}, (∀ uri ∈ uris, resolver.target uri = pure (url, "")) →
      first.resolver.base = url →
      (outermostRecursive fetch resolver first uris).result = .ok found →
      found.resolver.base = url := by
  induction uris with
  | nil =>
    intro first found _ hf h
    cases h
    exact hf
  | cons uri uris ih =>
    intro first found ht hf h
    obtain ⟨hu, hus⟩ := List.forall_mem_cons.mp ht
    unfold outermostRecursive at h
    obtain ⟨next, hn, h⟩ := Run.bind_result_ok_iff.mp h
    split at h
    · exact ih hus (lookup_whole_base hu hn) h
    · cases h
      exact hf

/-- At every place in the document, references start from the same base. -/
theorem base_of_atHome (h : AtHome fetch schema f s) : f.resolver.base = schema.home.base := by
  induction h with
  | document => rfl
  | part _ _ _ _ ih => exact ih
  | counted _ _ _ ih => exact ih
  | back _ _ _ ht hr hs hl _ => exact lookup_straight ht hr hs hl
  | @recur f members v found d _ _ hr hscope hl _ ih =>
    have ht : f.resolver.target "#" = pure (schema.home.base, "") := by
      rw [← ih]
      rfl
    unfold lookupRecursive at hl
    obtain ⟨first, hf, hl⟩ := Run.bind_result_ok_iff.mp hl
    have hfirst : first.contents = schema.document := by
      rw [lookup_eq ht, retrieve_known hr, Run.bind_of_ok _ rfl] at hf
      cases hf
      rfl
    have hbase := lookup_whole_base ht hf
    rw [hfirst] at hl
    split at hl
    · next hrec => exact outermostRecursive_base _ (hscope hrec) hbase hl
    · cases hl
      exact hbase

theorem visited_of_atHome (h : AtHome fetch schema f s) :
    Visited fetch schema.start schema.document f s := by
  induction h with
  | document => exact .start
  | part _ hw hid hd ih =>
    refine .enter ih hw ?_ hd
    rw [enter_anonymous hid]
    rfl
  | counted _ hw _ ih => exact .part ih hw
  | back hv hk hm _ _ _ hl hd => exact .refer hv hk hm hl hd
  | recur _ hm _ _ hl hd ih => exact .recur ih hm hl hd

/-- Wherever an evaluation comes, the document it started with is known. -/
theorem known_of_visited (h : Visited fetch schema.start schema.document f s) :
    (f.resolver.registry.resource? schema.home.base).isSome := by
  induction h with
  | start =>
    show (schema.home.registry.resource? _).isSome
    rw [show schema.home.registry.resource? schema.home.base = some schema.root from
      root_known _ _]
    rfl
  | enter _ _ hr _ ih =>
    show (Registry.resource? _ _).isSome
    rw [enter_registry hr]
    exact ih
  | stay _ _ _ ih => exact ih
  | part _ _ ih => exact ih
  | refer _ _ _ hl _ ih => exact extends_lookup hl _ ih
  | recur _ _ hl _ ih => exact extends_lookupRecursive hl _ ih

/-! ### References -/

theorem target_fragment (resolver : Resolver) (fragment : List Char) :
    resolver.target (String.ofList ('#' :: fragment)) =
      pure (resolver.base, String.ofList fragment) := by
  unfold target
  rw [String.toList_ofList]
  rfl

theorem target_relative {resolver : Resolver} {ref joined url fragment : String}
    (hr : ref.toList.head? ≠ some '#') (hj : Url.join resolver.base ref = .ok joined)
    (hc : Url.cutFragment joined = .ok (url, fragment)) :
    resolver.target ref = pure (url, fragment) := by
  unfold target
  split
  · next fragment' heq =>
    rw [heq] at hr
    exact absurd rfl hr
  · rw [hj]
    simp only [Search.ofUrl]
    rw [Run.bind_of_ok _ rfl, hc]
    rfl

theorem resolvedAt_of_target {resolver : Resolver} {ref url fragment : String}
    (ht : resolver.target ref = pure (url, fragment)) : ResolvedAt fetch resolver ref url fragment where
  known hk := (lookup_events ht).trans (retrieve_events_known hk)
  asked _ hc hk := (lookup_events ht).trans (retrieve_unknown hk hc)
  only _ h := lookup_congr ht h
  whole hf found h := by
    subst hf
    exact lookup_whole_base ht h
  resolvable hf document hd k fault := by
    subst hf
    exact lookup_resolvable ht hd k fault

theorem referencesFrom_of_atHome (h : AtHome fetch schema f s) :
    ReferencesFrom fetch schema.home.base f.resolver where
  base_eq := base_of_atHome h
  known := .inl (known_of_visited (visited_of_atHome h))
  within fragment := by
    have hk : f.resolver.registry.Knows f.resolver.base := by
      rw [base_of_atHome h]
      exact .inl (known_of_visited (visited_of_atHome h))
    exact (lookup_events (target_fragment _ fragment)).trans (retrieve_events_known hk)
  relative ref joined url fragment hr hj hc := by
    rw [← base_of_atHome h] at hj
    exact resolvedAt_of_target (target_relative hr hj hc)

theorem colon_mem_of_looksAbsolute {s : List Char} (h : looksAbsolute s = true) : ':' ∈ s := by
  induction s with
  | nil => cases h
  | cons c s ih =>
    unfold looksAbsolute at h
    split at h
    · cases ‹_ = []›
    · simp_all
    · simp_all

theorem withoutHash_ne_empty (h : looksAbsolute uri.toList = true) :
    Dialect.withoutHash uri ≠ "" := by
  intro he
  have hs : dropTrailing '#' uri.toList = [] := by
    have ht := congrArg String.toList he
    unfold Dialect.withoutHash at ht
    rw [String.toList_ofList] at ht
    exact ht.trans rfl
  have hall : ∀ c ∈ uri.toList, decide (c = '#') = true := List.rdropWhile_eq_nil_iff.mp hs
  exact absurd (hall ':' (colon_mem_of_looksAbsolute h)) (by decide)

/-- A document without an identifier, compiled under a URL: an evaluation visits the places that
subschemas and references lead to, and at each of them that is in the document references are resolved
from one base. That base is the URL in the dialects that look for `$id`, but in drafts 6 and 7 beside no
`$ref`; else it is empty, and references are taken as they are. -/
theorem references_from_location (h : (compile uri (.object members)).result = .ok schema)
    (hid : Members.has members schema.dialect.idKeyword = false)
    (hu : looksAbsolute uri.toList = true) (fetch : Fetch) :
    (∀ v, walkWithin (Visited fetch schema.start schema.document) fetch false maxDepth schema.dialect
        schema.start schema.document v =
      evaluate fetch false (MetaSchema.registry.combine schema.registry) schema.dialect
        schema.document v) ∧
    (schema.dialect.takesLocation members uri = true → ∀ ref ≠ "",
      Url.join (schema.dialect.referenceBase members uri) ref = Url.join uri ref) ∧
    ∀ f s, AtHome fetch schema f s →
      Visited fetch schema.start schema.document f s ∧
      ReferencesFrom fetch (schema.dialect.referenceBase members uri) f.resolver := by
  have hc := compile_ok_iff.mp h
  refine ⟨fun v => walkWithin_visited false maxDepth .start schema.dialect v, ?_, ?_⟩
  · intro htakes ref hr
    unfold Dialect.referenceBase
    rw [if_pos htakes]
    exact Url.join_withoutHash (withoutHash_ne_empty hu) hr
  · intro f s hf
    rw [← home_base hc hid hu]
    exact ⟨visited_of_atHome hf, referencesFrom_of_atHome hf⟩

/-! ### A reference to the document beside -/

def draft7Member : String × Value := ("$schema", .string "http://json-schema.org/draft-07/schema#")

/-- A reference to a document beside, from a member. -/
def besideMembers (dialect : String × Value) : Members :=
  [dialect, ("properties", .object [("a", .object [("$ref", .string "other.json")])])]

theorem evaluating_draft7 : Dialect.evaluating .usual (.object (besideMembers draft7Member)) =
    .ok .draft7 := eq_ok_of_toOption (by decide +kernel)

/-- In draft 7, a reference to the document beside is one to its URL. -/
theorem references_from_main : ∃ schema,
    (compile "file:///main.json" (.object (besideMembers draft7Member))).result = .ok schema ∧
      ∀ fetch, ReferencesFrom fetch "file:///main.json" schema.home ∧
        ResolvedAt fetch schema.home "other.json" "file:///other.json" "" := by
  obtain ⟨schema, h⟩ := exists_ok_of_isSome (show (compile "file:///main.json"
    (.object (besideMembers draft7Member))).result.toOption.isSome = true by decide +kernel)
  have hd : schema.dialect = .draft7 := (compile_ok_iff.mp h).dialect_eq evaluating_draft7
  have hid : Members.has (besideMembers draft7Member) schema.dialect.idKeyword = false := by
    rw [hd]
    decide
  have hbase : schema.dialect.referenceBase (besideMembers draft7Member) "file:///main.json" =
      "file:///main.json" := by
    rw [hd]
    decide +kernel
  refine ⟨schema, h, fun fetch => ?_⟩
  obtain ⟨-, -, hall⟩ := references_from_location h hid (by decide) fetch
  obtain ⟨-, hrefs⟩ := hall schema.start schema.document .document
  rw [hbase] at hrefs
  exact ⟨hrefs, hrefs.relative "other.json" "file:///other.json" "file:///other.json" "" (by decide)
    (eq_ok_of_toOption (by decide +kernel)) (eq_ok_of_toOption (by decide +kernel))⟩

/-- In draft 4, what is at the URL that the reference is joined to has no say. -/
theorem reference_beside_draft4 :
    Url.join "file:///main.json" "other.json" = .ok "file:///other.json" ∧
      ∃ schema, (compile "file:///main.json" (.object (besideMembers draft4Member))).result =
          .ok schema ∧
        ∀ fetch fetch', fetch "other.json" = fetch' "other.json" →
          schema.home.lookup fetch "other.json" = schema.home.lookup fetch' "other.json" := by
  refine ⟨eq_ok_of_toOption (by decide +kernel), ?_⟩
  obtain ⟨schema, h⟩ := exists_ok_of_isSome (show (compile "file:///main.json"
    (.object (besideMembers draft4Member))).result.toOption.isSome = true by decide +kernel)
  have hc := compile_ok_iff.mp h
  have hd : schema.dialect = .draft4 := hc.dialect_eq (eq_ok_of_toOption (by decide +kernel))
  have hbase : schema.home.base = "" := by
    have hid : Members.has (besideMembers draft4Member) schema.dialect.idKeyword = false := by
      rw [hd]
      decide
    rw [home_base hc hid (by decide), hd]
    rfl
  have hj : Url.join schema.home.base "other.json" = .ok "other.json" := by
    rw [hbase]
    rfl
  have hcut : Url.cutFragment "other.json" = .ok ("other.json", "") :=
    eq_ok_of_toOption (by decide +kernel)
  exact ⟨schema, h, fun fetch fetch' heq =>
    lookup_congr (target_relative (by decide) hj hcut) heq⟩

end Preflight.Schema

import Mathlib.Data.List.Forall2
import Mathlib.Data.List.Nodup
import Preflight.Proofs.Schema.Transport

/-!
# What is known of meta-schemas

The meta-schemas are known by their own URLs, and no part of them has a name of its own. So crawling
their registry comes to its end and adds each document once more, with its anchors (`crawl_selfNamed`), and
what is looked up by the URL of a document is that document (`resource?_registry`, `anchor?_registry`).
-/

namespace Preflight.Schema

open Gateway Json Text

/-! ### Parts without names -/

mutual

/-- Whether all members of the objects in a value, at whatever depth, are as asked. -/
def everyMember (p : String → Value → Bool) : Value → Bool
  | .array items => everyMemberOfItems p items
  | .object members => everyMemberOf p members
  | _ => true

def everyMemberOfItems (p : String → Value → Bool) : List Value → Bool
  | [] => true
  | v :: vs => everyMember p v && everyMemberOfItems p vs

def everyMemberOf (p : String → Value → Bool) : Members → Bool
  | [] => true
  | (keyword, v) :: rest => p keyword v && everyMember p v && everyMemberOf p rest

end

/-- Keywords of identifiers and anchors. -/
def nameKeywords : List String := ["$id", "id", "$anchor", "$dynamicAnchor"]

def isNamelessMember (keyword : String) : Value → Bool
  | .string _ => !nameKeywords.contains keyword
  | _ => true

/-- Whether no object in a value, at whatever depth, has an identifier or an anchor. -/
def isNameless (v : Value) : Bool := everyMember isNamelessMember v

variable {p : String → Value → Bool} {v w : Value} {members : Members} {items : List Value}
  {d : Dialect} {keyword uri : String} {r : Resource} {registry : Registry}

theorem everyMemberOfItems_iff :
    everyMemberOfItems p items = true ↔ ∀ v ∈ items, everyMember p v = true := by
  induction items with
  | nil => simp [everyMemberOfItems]
  | cons v vs ih => rw [everyMemberOfItems, Bool.and_eq_true, ih, List.forall_mem_cons]

theorem everyMember_object_iff : everyMember p (.object members) = true ↔
    ∀ m ∈ members, p m.1 m.2 = true ∧ everyMember p m.2 = true := by
  rw [everyMember]
  induction members with
  | nil => simp [everyMemberOf]
  | cons m rest ih =>
    obtain ⟨keyword, v⟩ := m
    rw [everyMemberOf, Bool.and_eq_true, Bool.and_eq_true, ih, List.forall_mem_cons]

theorem text?_of_isNameless (h : isNameless v = true) (hk : keyword ∈ nameKeywords) :
    Dialect.text? v keyword = none := by
  unfold Dialect.text?
  cases hg : v.get? keyword with
  | none => rfl
  | some w =>
    cases v with
    | object members =>
      have hw := (everyMember_object_iff.mp h _ (mem_of_get? hg)).1
      cases w with
      | string s =>
        rw [isNamelessMember, List.contains_iff_mem.mpr hk] at hw
        cases hw
      | _ => rfl
    | _ => cases hg

theorem id?_of_isNameless (h : isNameless v = true) (d : Dialect) :
    (Resource.mk d v).id? = none := by
  have hid : Dialect.text? v d.idKeyword = none := by
    cases d <;> exact text?_of_isNameless h (by decide)
  unfold Resource.id? Dialect.identifier?
  rw [hid]

theorem anchors_of_isNameless (h : isNameless v = true) (d : Dialect) : d.anchors v = [] := by
  have hid : Dialect.text? v d.idKeyword = none := by
    cases d <;> exact text?_of_isNameless h (by decide)
  have ha : Dialect.text? v "$anchor" = none := text?_of_isNameless h (by decide)
  have hd : Dialect.text? v "$dynamicAnchor" = none := text?_of_isNameless h (by decide)
  unfold Dialect.anchors
  simp only [ha, hd, hid]
  cases d <;> rfl

theorem isNameless_of_subschema (h : ∀ m ∈ members, isNameless m.2 = true)
    (hw : Subschema members w) : isNameless w = true := by
  cases hw with
  | whole _ hm => exact h _ hm
  | listed _ hm hi => exact everyMemberOfItems_iff.mp (h _ hm) w hi
  | named _ hm hn => exact (everyMember_object_iff.mp (h _ hm) _ hn).2
  | @disallowed v type hm ht =>
    have htype : isNameless type = true := by
      unfold asList at ht
      split at ht
      · exact everyMemberOfItems_iff.mp (h _ hm) type ht
      · rw [List.mem_singleton.mp ht]
        exact h _ hm
    unfold isNameless at htype
    simp [isNameless, everyMember, everyMemberOf, everyMemberOfItems, htype, isNamelessMember]

theorem isNameless_of_mem_parts (h : ∀ members, r.contents = .object members →
    ∀ m ∈ members, isNameless m.2 = true) {part : Resource} (hp : part ∈ r.parts) :
    isNameless part.contents = true := by
  obtain ⟨members, hc, hw, -⟩ := mem_parts hp
  exact isNameless_of_subschema (h members hc) hw

/-! ### Crawling -/

theorem foldlM_eq_ok {α β : Type} {f : β → α → Except UrlFault β} {g : β → α → β} {l : List α}
    (h : ∀ a ∈ l, ∀ b, f b a = .ok (g b a)) (b : β) : l.foldlM f b = .ok (l.foldl g b) := by
  induction l generalizing b with
  | nil => rfl
  | cons a l ih =>
    obtain ⟨ha, hl⟩ := List.forall_mem_cons.mp h
    rw [List.foldlM_cons, ha b]
    exact ih hl _

namespace Registry

/-- A document is known by its URL, and its anchors there. -/
def know (registry : Registry) (p : String × Resource) : Registry where
  resources := p :: registry.resources
  anchors := (p.2.dialect.anchors p.2.contents).foldl
    (fun anchors (name, dynamic) => ((p.1, name), ⟨p.2, dynamic⟩) :: anchors) registry.anchors
  uncrawled := registry.uncrawled

/-- Entering a document, when there is nothing to enter in its parts. -/
theorem enter_of_parts {depth : Nat} {base : String} (hb : baseInside base r = .ok uri)
    (hid : r.id?.isSome = true) (hp : ∀ part ∈ r.parts, ∀ registry,
      enter depth uri part registry = .ok registry) :
    enter (depth + 1) base r registry = .ok (registry.know (uri, r)) := by
  unfold enter
  rw [hb]
  refine (foldlM_eq_ok (g := fun registry _ => registry)
    (fun part hm => hp part (List.mem_reverse.mp hm)) _).trans ?_
  rw [List.foldl_fixed, hid]
  rfl

theorem enter_nameless (depth : Nat) : ∀ {base : String} {r : Resource} {registry : Registry},
    isNameless r.contents = true → enter depth base r registry = .ok registry := by
  induction depth with
  | zero => exact fun _ => rfl
  | succ depth ih =>
    intro base r registry h
    have hparts : ∀ part ∈ r.parts.reverse, ∀ registry,
        enter depth base part registry = .ok registry := by
      intro part hp registry
      refine ih (isNameless_of_mem_parts (fun members hc m hm => ?_) (List.mem_reverse.mp hp))
      rw [hc] at h
      exact (everyMember_object_iff.mp h m hm).2
    unfold enter baseInside
    rw [id?_of_isNameless h r.dialect, anchors_of_isNameless h]
    refine (foldlM_eq_ok (g := fun registry _ => registry) hparts _).trans ?_
    rw [List.foldl_fixed]
    rfl

/-- A document that is known by its own URL, and has no parts with names. -/
structure SelfNamed (uri : String) (r : Resource) : Prop where
  id_eq : r.id? = some uri
  join_eq : Url.join uri uri = .ok uri
  parts : ∀ members, r.contents = .object members → ∀ m ∈ members, isNameless m.2 = true

theorem SelfNamed.withoutHash {url : String} (h : SelfNamed url r) :
    Dialect.withoutHash url = url := by
  have hid := h.id_eq
  unfold Resource.id? Dialect.identifier? at hid
  split at hid
  · split at hid
    · cases hid
    · cases hid
      exact withoutHash_withoutHash _
  · cases hid

theorem enter_selfNamed (h : SelfNamed uri r) (depth : Nat) (registry : Registry) :
    enter (depth + 1) uri r registry = .ok (registry.know (uri, r)) := by
  refine enter_of_parts ?_ (by rw [h.id_eq]; rfl) fun part hp registry =>
    enter_nameless depth (isNameless_of_mem_parts h.parts hp)
  unfold baseInside
  rw [h.id_eq]
  exact h.join_eq

theorem crawl_selfNamed (h : ∀ p ∈ registry.uncrawled, SelfNamed p.1 p.2) :
    registry.crawl = .ok (registry.uncrawled.foldl know { registry with uncrawled := [] }) := by
  unfold crawl
  rw [foldlM_eq_ok (g := know) fun p hp registry => enter_selfNamed (h p hp) _ registry]

/-! #### What is known -/

theorem mem_resources_foldl {l : List (String × Resource)} {x : String × Resource} :
    x ∈ (l.foldl know registry).resources ↔ x ∈ l ∨ x ∈ registry.resources := by
  induction l generalizing registry with
  | nil => simp
  | cons p l ih =>
    rw [List.foldl_cons, ih, List.mem_cons, know, List.mem_cons]
    exact or_assoc.symm.trans (or_congr_left or_comm)

theorem mem_anchors_know {p : String × Resource} {x : (String × String) × Anchor} :
    x ∈ (registry.know p).anchors ↔
      (∃ a ∈ p.2.dialect.anchors p.2.contents, x = ((p.1, a.1), ⟨p.2, a.2⟩)) ∨
        x ∈ registry.anchors := by
  unfold know
  dsimp only
  generalize registry.anchors = known
  induction p.2.dialect.anchors p.2.contents generalizing known with
  | nil => simp
  | cons a anchors ih =>
    rw [List.foldl_cons, ih, List.mem_cons, List.exists_mem_cons_iff]
    exact or_assoc.symm.trans (or_congr_left or_comm)

theorem mem_anchors_foldl {l : List (String × Resource)} {x : (String × String) × Anchor} :
    x ∈ (l.foldl know registry).anchors ↔
      (∃ p ∈ l, ∃ a ∈ p.2.dialect.anchors p.2.contents, x = ((p.1, a.1), ⟨p.2, a.2⟩)) ∨
        x ∈ registry.anchors := by
  induction l generalizing registry with
  | nil => simp
  | cons p l ih =>
    rw [List.foldl_cons, ih, mem_anchors_know, List.exists_mem_cons_iff]
    exact or_assoc.symm.trans (or_congr_left or_comm)

end Registry

/-! ### The meta-schemas -/

namespace MetaSchema

open Registry

def urls : List String := [
  "http://json-schema.org/draft-03/schema",
  "http://json-schema.org/draft-04/schema",
  "http://json-schema.org/draft-06/schema",
  "http://json-schema.org/draft-07/schema",
  "https://json-schema.org/draft/2019-09/schema",
  "https://json-schema.org/draft/2019-09/meta/core",
  "https://json-schema.org/draft/2019-09/meta/applicator",
  "https://json-schema.org/draft/2019-09/meta/validation",
  "https://json-schema.org/draft/2019-09/meta/meta-data",
  "https://json-schema.org/draft/2019-09/meta/format",
  "https://json-schema.org/draft/2019-09/meta/content",
  "https://json-schema.org/draft/2020-12/schema",
  "https://json-schema.org/draft/2020-12/meta/core",
  "https://json-schema.org/draft/2020-12/meta/applicator",
  "https://json-schema.org/draft/2020-12/meta/unevaluated",
  "https://json-schema.org/draft/2020-12/meta/validation",
  "https://json-schema.org/draft/2020-12/meta/meta-data",
  "https://json-schema.org/draft/2020-12/meta/format-annotation",
  "https://json-schema.org/draft/2020-12/meta/content"]

theorem nodup_urls : urls.Nodup := by
  simp [urls]

/-- A URL in its usual spelling, with a scheme and a host and without parameters. -/
structure UsualUrl (url : List Char) (u : Url.Parts) : Prop where
  split_eq : Url.splitUrl url = .ok u
  text_eq : u.text = url
  scheme : u.scheme.isEmpty = false
  relative : Url.schemeIn Url.withRelative u.scheme = true
  hierarchical : Url.schemeIn Url.hierarchical u.scheme = true
  authority : u.authority.isEmpty = false
  path : u.path.contains ';' = false

def isUsualUrl (url : List Char) : Bool :=
  match Url.splitUrl url with
  | .ok u => u.text == url && !u.scheme.isEmpty && Url.schemeIn Url.withRelative u.scheme &&
      Url.schemeIn Url.hierarchical u.scheme && !u.authority.isEmpty && !u.path.contains ';'
  | .error _ => false

theorem exists_usualUrl {url : List Char} (h : isUsualUrl url = true) : ∃ u, UsualUrl url u := by
  unfold isUsualUrl at h
  cases hs : Url.splitUrl url with
  | error fault =>
    rw [hs] at h
    cases h
  | ok u =>
    rw [hs] at h
    simp only [Bool.and_eq_true, Bool.not_eq_true', beq_iff_eq] at h
    obtain ⟨⟨⟨⟨⟨ht, hn⟩, hw⟩, hh⟩, ha⟩, hp⟩ := h
    exact ⟨u, hs, ht, hn, hw, hh, ha, hp⟩

/-- Such a URL stays what it is, whatever URL it is joined to. -/
theorem join_usual {base url : List Char} (hb : isUsualUrl base = true)
    (h : isUsualUrl url = true) :
    Url.join (String.ofList base) (String.ofList url) = .ok (String.ofList url) := by
  obtain ⟨b, hb⟩ := exists_usualUrl hb
  obtain ⟨u, h⟩ := exists_usualUrl h
  unfold Url.join
  split
  · rfl
  split
  · next hempty =>
    have hnil : url = [] := String.ofList_injective (eq_of_beq hempty)
    have hs := h.split_eq
    rw [hnil] at hs
    cases hs
    cases h.scheme
  have hu : Url.parameters u.scheme u.path = (u.path, []) := by
    unfold Url.parameters
    rw [h.path, Bool.and_false]
    rfl
  rw [String.toList_ofList, String.toList_ofList, hb.split_eq, h.split_eq]
  simp only [bind, Except.bind, h.scheme, Bool.false_eq_true, if_false, hu, h.relative,
    h.hierarchical, h.authority]
  split
  · rfl
  · exact congrArg (fun text => Except.ok (String.ofList text)) h.text_eq

/-- A document names its own dialect, and is known by a URL. -/
structure KnownBy (url : String) (p : Dialect × Value) : Prop where
  ofDocument_eq : Resource.ofDocument p.1 p.2 = ⟨p.1, p.2⟩
  selfNamed : SelfNamed url ⟨p.1, p.2⟩

theorem withoutHash_ofList (s : List Char) :
    Dialect.withoutHash (String.ofList s) = String.ofList (dropTrailing '#' s) := by
  unfold Dialect.withoutHash
  rw [String.toList_ofList]

theorem uri_injective {d d' : Dialect} (h : d.uri = d'.uri) : d = d' := by
  cases d <;> cases d' <;> first | rfl | simp [Dialect.uri] at h

theorem identifying_self {d : Dialect} {document : Value} {name : List Char}
    (hs : document.get? "$schema" = some (.string (String.ofList name)))
    (hn : d.uri = String.ofList (dropTrailing '#' name)) : Dialect.identifying d document = d := by
  unfold Dialect.identifying
  rw [hs]
  dsimp only
  rw [withoutHash_ofList, ← hn]
  cases hf : Dialect.all.find? (·.uri == d.uri) with
  | none => rfl
  | some d' =>
    have hd := List.find?_some hf
    exact uri_injective (eq_of_beq hd)

theorem knownBy_of_id {d : Dialect} {document : Value} {name id : List Char} {url : String}
    (hs : document.get? "$schema" = some (.string (String.ofList name)))
    (hn : d.uri = String.ofList (dropTrailing '#' name))
    (hi : document.get? d.idKeyword = some (.string (String.ofList id)))
    (hu : url = String.ofList (dropTrailing '#' id))
    (hr : document.get? "$ref" = none) (hh : (id.head? == some '#') = false)
    (hc : isUsualUrl (dropTrailing '#' id) = true)
    (hp : (match document with
      | .object members => members.all fun m => isNameless m.2
      | _ => true) = true) : KnownBy url (d, document) where
  ofDocument_eq := by
    unfold Resource.ofDocument
    rw [identifying_self hs hn]
  selfNamed := {
    id_eq := by
      unfold Resource.id? Dialect.identifier? Dialect.text?
      rw [hi]
      dsimp only
      rw [hr, String.toList_ofList, hh, withoutHash_ofList, ← hu]
      cases d <;> rfl
    join_eq := by
      rw [hu]
      exact join_usual hc hc
    parts := by
      rintro members rfl m hm
      exact List.all_eq_true.mp hp m hm }

theorem knownBy_urls : List.Forall₂ KnownBy urls documents := by
  refine .cons ?_ <| .cons ?_ <| .cons ?_ <| .cons ?_ <| .cons ?_ <| .cons ?_ <| .cons ?_ <|
    .cons ?_ <| .cons ?_ <| .cons ?_ <| .cons ?_ <| .cons ?_ <| .cons ?_ <| .cons ?_ <| .cons ?_ <|
    .cons ?_ <| .cons ?_ <| .cons ?_ <| .cons ?_ .nil
  all_goals
    exact knownBy_of_id (by rfl) (by rfl) (by rfl) (by rfl) (by rfl) (by rfl) (by decide +kernel)
      (by decide +kernel)

def byUrl : List (String × Resource) := urls.zip (documents.map fun p => ⟨p.1, p.2⟩)

theorem mem_byUrl {l : List String} {documents : List (Dialect × Value)}
    (h : List.Forall₂ KnownBy l documents) :
    ∀ p ∈ l.zip (documents.map fun p => Resource.mk p.1 p.2), SelfNamed p.1 p.2 := by
  induction h with
  | nil => exact List.forall_mem_nil _
  | cons hk _ ih => exact List.forall_mem_cons.mpr ⟨hk.selfNamed, ih⟩

theorem foldl_add {l : List String} {documents : List (Dialect × Value)}
    (h : List.Forall₂ KnownBy l documents) (registry : Registry) :
    documents.foldl (fun registry (dialect, document) =>
      let r := Resource.ofDocument dialect document
      registry.add (r.id?.getD "") r) registry =
      let known := (l.zip (documents.map fun p => Resource.mk p.1 p.2)).reverse
      ⟨known ++ registry.resources, registry.anchors, known ++ registry.uncrawled⟩ := by
  induction h generalizing registry with
  | nil => rfl
  | @cons url p l documents hk _ ih =>
    rw [List.foldl_cons, ih]
    dsimp only
    rw [hk.ofDocument_eq, hk.selfNamed.id_eq]
    simp [Registry.add, hk.selfNamed.withoutHash]

theorem uncrawled_eq : uncrawled = ⟨byUrl.reverse, [], byUrl.reverse⟩ := by
  unfold uncrawled
  rw [foldl_add knownBy_urls]
  simp [Registry.empty, byUrl]

/-- What is known after crawling, if it comes to its end. -/
def settled (registry : Registry) : Registry :=
  match registry.crawl with
  | .ok crawled => crawled
  | .error _ => registry

theorem settled_of_crawl {crawled : Registry} (h : registry.crawl = .ok crawled) :
    settled registry = crawled := by
  unfold settled
  rw [h]

-- Told apart by its name only, the crawl is not worked out to compare the two sides.
seal Registry.crawl in
theorem registry_eq_settled : MetaSchema.registry = settled uncrawled := rfl

theorem registry_eq :
    MetaSchema.registry = byUrl.reverse.foldl know ⟨byUrl.reverse, [], []⟩ := by
  rw [registry_eq_settled]
  refine settled_of_crawl ?_
  rw [uncrawled_eq]
  exact crawl_selfNamed fun p hp => mem_byUrl knownBy_urls p (List.mem_reverse.mp hp)

/-! ### Looking up -/

theorem byUrl_unique {url : String} {r r' : Resource} (h : (url, r) ∈ byUrl) (h' : (url, r') ∈ byUrl) :
    r = r' := by
  have hkeys : byUrl.map (·.1) = urls := List.map_fst_zip (by decide)
  have hn : (byUrl.map (·.1)).Nodup := hkeys ▸ nodup_urls
  have := List.inj_on_of_nodup_map hn h h' rfl
  cases this
  rfl

theorem resource?_registry {url : String} {r : Resource} (h : (url, r) ∈ byUrl) :
    MetaSchema.registry.resource? url = some r := by
  unfold Registry.resource?
  refine lookup_of_unique ?_ fun r' hr => ?_
  · rw [registry_eq, mem_resources_foldl]
    exact .inl (List.mem_reverse.mpr h)
  · rw [registry_eq, mem_resources_foldl, List.mem_reverse, or_self] at hr
    exact byUrl_unique hr h

theorem anchor?_registry {url name : String} {r : Resource} {dynamic : Bool} (h : (url, r) ∈ byUrl)
    (ha : r.dialect.anchors r.contents = [(name, dynamic)]) :
    MetaSchema.registry.anchor? url name = some ⟨r, dynamic⟩ := by
  unfold Registry.anchor?
  refine lookup_of_unique ?_ fun anchor hr => ?_
  · rw [registry_eq, mem_anchors_foldl]
    exact .inl ⟨_, List.mem_reverse.mpr h, (name, dynamic), by rw [ha]; exact List.mem_cons_self, rfl⟩
  · rw [registry_eq, mem_anchors_foldl] at hr
    rcases hr with ⟨p, hp, ⟨name, dynamic⟩, hm, he⟩ | hr
    · cases he
      cases byUrl_unique (List.mem_reverse.mp hp) h
      rw [ha, List.mem_singleton] at hm
      cases hm
      rfl
    · cases hr

end MetaSchema

end Preflight.Schema

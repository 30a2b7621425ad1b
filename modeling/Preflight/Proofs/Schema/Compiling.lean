import Mathlib.Data.List.DropRight
import Preflight.Proofs.Gateway.Reading
import Preflight.Proofs.Schema.Subschemas

/-!
# Documents that compile

A document compiles when it is a schema, its meta-schema allows it and its identifiers are URLs
(`compile_ok_iff`). The compiled document differs from the given one in its identifier only
(`twins_anchored`), and stands in the registry under the base that its evaluation starts from
(`Resolver.root_known`).
-/

namespace Preflight.Schema

open Gateway Json Text

variable {uri keyword name : String} {document v w : Value} {members : Members}

/-- What it takes to compile a document under a URI. -/
structure Compiles (uri : String) (document : Value) (schema : Compiled) : Prop where
  isSchema : Dialect.isSchema document = true
  dialect : Dialect.evaluating .usual document = .ok schema.dialect
  allowed : (firstObjection schema.dialect document).result = .ok none
  crawled : (Registry.empty.add uri (.ofDocument .usual (anchored uri document))).crawl =
    .ok schema.registry
  uri_eq : schema.uri = uri
  document_eq : schema.document = anchored uri document

theorem failOnUrl_ok_iff {ε α : Type} {r : Except UrlFault α} {a : α} :
    (failOnUrl r : Run (Failure ε) α).result = .ok a ↔ r = .ok a := by
  cases r with
  | ok b => exact ⟨fun h => by cases h; rfl, fun h => by cases h; rfl⟩
  | error fault => exact ⟨nofun, nofun⟩

theorem compile_ok_iff {schema : Compiled} :
    (compile uri document).result = .ok schema ↔ Compiles uri document schema := by
  unfold compile
  cases hs : Dialect.isSchema document with
  | false => exact ⟨nofun, fun h => absurd (hs.symm.trans h.isSchema) Bool.false_ne_true⟩
  | true =>
    simp only [Bool.not_true, Bool.false_eq_true, if_false, Run.bind_result_ok_iff, failOnUrl_ok_iff]
    constructor
    · rintro ⟨dialect, hd, found, hf, h⟩
      cases found with
      | some x => cases h
      | none =>
        obtain ⟨registry, hr, h⟩ := Run.bind_result_ok_iff.mp h
        obtain ⟨_, -, h⟩ := Run.bind_result_ok_iff.mp h
        cases h
        exact ⟨hs, hd, mapError_ok_iff.mp hf, failOnUrl_ok_iff.mp hr, rfl, rfl⟩
    · rintro ⟨-, hd, hf, hr, rfl, hdoc⟩
      refine ⟨schema.dialect, hd, none, mapError_ok_iff.mpr hf, ?_⟩
      refine Run.bind_result_ok_iff.mpr ⟨schema.registry, failOnUrl_ok_iff.mpr hr, ?_⟩
      refine Run.bind_result_ok_iff.mpr ⟨(), rfl, ?_⟩
      rw [← hdoc]
      rfl

theorem Compiles.dialect_eq {schema : Compiled} {d : Dialect} (h : Compiles uri document schema)
    (hd : Dialect.evaluating .usual document = .ok d) : schema.dialect = d :=
  Except.ok.inj (h.dialect.symm.trans hd)

/-! ### The identifier of the document -/

/-- Anchoring changes nothing but the identifier. -/
theorem twins_anchored (uri : String) (document : Value) :
    Twins (anchored uri document) document := by
  cases document with
  | object members =>
    unfold anchored
    dsimp only
    split
    · refine .objects ?_
      unfold withoutId
      rw [List.filter_append, List.filter_cons_of_neg (by simp), List.filter_nil, List.append_nil]
    · exact .same _
  | _ => exact .same _

theorem twins_object {s : Value} (h : Twins (.object members) s) :
    ∃ members', s = .object members' ∧ withoutId members = withoutId members' := by
  cases h with
  | same => exact ⟨members, rfl, rfl⟩
  | objects h => exact ⟨_, rfl, h⟩

theorem twins_symm (h : Twins v w) : Twins w v := by
  cases h with
  | same => exact .same v
  | objects h => exact .objects h.symm

theorem twins_trans {u : Value} (h : Twins u v) (h' : Twins v w) : Twins u w := by
  cases h with
  | same => exact h'
  | objects h =>
    obtain ⟨members', rfl, hm⟩ := twins_object h'
    exact .objects (h.trans hm)

theorem value_get?_twins (h : Twins v w) (hn : name ≠ "$id") : v.get? name = w.get? name := by
  cases h with
  | same => rfl
  | objects h => exact get?_twins h hn

theorem identifying_twins (h : Twins v w) (d : Dialect) :
    Dialect.identifying d v = Dialect.identifying d w := by
  unfold Dialect.identifying
  rw [value_get?_twins h (show "$schema" ≠ "$id" by decide)]

theorem subschema_twins {m₁ m₂ : Members} (h : withoutId m₁ = withoutId m₂) (hw : Subschema m₁ w) :
    Subschema m₂ w := by
  have hne {keyword : String} (hk : keyword ∈ partKeywords ++ tableKeywords) : keyword ≠ "$id" :=
    ne_of_mem_of_not_mem hk (by decide)
  cases hw with
  | whole hk hm => exact .whole hk ((mem_twins h (hne (List.mem_append_left _ hk))).mp hm)
  | listed hk hm hi => exact .listed hk ((mem_twins h (hne (List.mem_append_left _ hk))).mp hm) hi
  | named hk hm hi => exact .named hk ((mem_twins h (hne (List.mem_append_right _ hk))).mp hm) hi
  | disallowed hm hi => exact .disallowed ((mem_twins h (by decide)).mp hm) hi

theorem id?_twins {d : Dialect} (h : Twins v w) (hk : d.idKeyword ≠ "$id") :
    (Resource.mk d v).id? = (Resource.mk d w).id? := by
  unfold Resource.id? Dialect.identifier? Dialect.text?
  rw [value_get?_twins h hk, value_get?_twins h (show "$ref" ≠ "$id" by decide)]

theorem id?_located {d : Dialect} (hk : d.idKeyword = "$id") (hid : Members.has members "$id" = false) :
    (Resource.mk d (.object (members ++ [("$id", .string uri)]))).id? =
      if d.refHidesSiblings && ((Members.get? members "$ref").isSome || uri.toList.head? == some '#')
      then none else some (Dialect.withoutHash uri) := by
  have hg : (Value.object (members ++ [("$id", .string uri)])).get? "$id" = some (.string uri) := by
    show List.lookup "$id" (members ++ _) = _
    have hn : List.lookup "$id" members = none :=
      Option.isNone_iff_eq_none.mp (Option.isSome_eq_false_iff.mp hid)
    rw [List.lookup_append, hn]
    rfl
  have hr : (Value.object (members ++ [("$id", .string uri)])).get? "$ref" =
      Members.get? members "$ref" := by
    show List.lookup "$ref" (members ++ _) = _
    rw [List.lookup_append]
    exact Option.or_none
  unfold Resource.id? Dialect.identifier? Dialect.text?
  rw [hk, hg, hr]

/-- What a document without an identifier is known by once it is anchored: nothing, or its
location. -/
theorem id?_anchored {d : Dialect} (h : (Resource.mk d document).id? = none) :
    (Resource.mk d (anchored uri document)).id? = none ∨
      looksAbsolute uri.toList = true ∧
        (Resource.mk d (anchored uri document)).id? = some (Dialect.withoutHash uri) := by
  by_cases hk : d.idKeyword = "$id"
  · cases document with
    | object members =>
      unfold anchored
      dsimp only
      split
      · next hc =>
        rw [Bool.and_eq_true, Bool.not_eq_true'] at hc
        rw [id?_located hk hc.1]
        split
        · exact .inl rfl
        · exact .inr ⟨hc.2, rfl⟩
      · exact .inl h
    | _ => exact .inl h
  · exact .inl ((id?_twins (twins_anchored uri document) hk).trans h)

/-! ### The root of an evaluation -/

theorem dropTrailing_dropTrailing (c : Char) (s : List Char) :
    dropTrailing c (dropTrailing c s) = dropTrailing c s := List.rdropWhile_idempotent _ _

theorem withoutHash_withoutHash (uri : String) :
    Dialect.withoutHash (Dialect.withoutHash uri) = Dialect.withoutHash uri := by
  unfold Dialect.withoutHash
  rw [String.toList_ofList, dropTrailing_dropTrailing]

/-- What was added last under a URI is known there. -/
theorem Registry.resource?_add (registry : Registry) (uri : String) (r : Resource) :
    (registry.add uri r).resource? (Dialect.withoutHash uri) = some r := by
  unfold Registry.add Registry.resource?
  rw [List.lookup_cons_self]

namespace Resolver

variable {fetch : Fetch} {resolver : Resolver} {r : Resource} {ref : String}

theorem root_known (registry : Registry) (r : Resource) :
    (ofRoot registry r).registry.resource? (ofRoot registry r).base = some r := by
  have hbase : Dialect.withoutHash (ofRoot registry r).base = (ofRoot registry r).base := by
    show Dialect.withoutHash (r.id?.getD "") = r.id?.getD ""
    cases hid : r.id? with
    | none => decide
    | some id =>
      unfold Resource.id? Dialect.identifier? at hid
      split at hid
      · split at hid
        · cases hid
        · cases hid
          exact withoutHash_withoutHash _
      · cases hid
  have hknown := Registry.resource?_add registry (ofRoot registry r).base r
  rw [hbase] at hknown
  exact hknown

theorem retrieve_known {registry : Registry} {uri : String} (h : registry.resource? uri = some r)
    (ref : String) : retrieve fetch registry ref uri = pure (registry, r) := by
  unfold retrieve
  rw [h]

theorem lookup_whole (h : resolver.registry.resource? resolver.base = some r) :
    lookup fetch resolver "#" = pure ⟨r.contents, resolver.moveTo resolver.registry resolver.base⟩ := by
  have ht : target resolver "#" = pure (resolver.base, "") := by
    unfold target
    rfl
  unfold lookup
  rw [ht, Run.bind_of_ok _ rfl]
  dsimp only
  rw [retrieve_known h, Run.bind_of_ok _ rfl]
  rfl

theorem lookup_pointer {pointer : List Char} (hr : ref.toList = '#' :: '/' :: pointer)
    (h : resolver.registry.resource? resolver.base = some r) :
    lookup fetch resolver ref = follow r (String.ofList ('/' :: pointer))
      (resolver.moveTo resolver.registry resolver.base) [] r.contents
      (pointerSteps (String.ofList ('/' :: pointer))) := by
  have ht : target resolver ref = pure (resolver.base, String.ofList ('/' :: pointer)) := by
    unfold target
    rw [hr]
    rfl
  unfold lookup
  rw [ht, Run.bind_of_ok _ rfl]
  dsimp only
  rw [retrieve_known h, Run.bind_of_ok _ rfl]
  simp only [String.toList_ofList]
  rfl

end Resolver

end Preflight.Schema

import Preflight.Gateway.BundledSchema
import Preflight.Proofs.Gateway.Reading
import Preflight.Proofs.Schema.Compiling
import Preflight.Proofs.Schema.Keywords

/-!
# Values that conform to the bundled schema

What the bundled schema asks of a configuration, told without the schema: `ConformsService` and the
predicates it is made of, one for each definition of the schema. A compiled bundled schema finds
nothing in a value exactly when the value conforms (`validate_ok_iff_conforms`).
-/

namespace Preflight.Gateway

open Json Schema

/-! ### Conforming -/

def IsFlag (v : Value) : Prop := ∃ b, v = .bool b

def IsOneOf (texts : List String) (v : Value) : Prop := ∃ s ∈ texts, v = .string s

def IsMatching (pattern : String) (v : Value) : Prop :=
  ∃ s, v = .string s ∧ patternFound pattern s = .ok true

def IsDuration : Value → Prop := IsMatching "^[0-9]+(ns|us|µs|ms|s|m|h)$"

def encodings : List String :=
  ["json", "json-collection", "safejson", "xml", "yaml", "string", "negotiate", "no-op"]

/-- A number for a port: whole, or floating-point without a fraction. -/
def IsPort (v : Value) : Prop :=
  ((∃ n, v = .int n) ∨ ∃ x, v = .float x ∧ x.isIntegral = true) ∧
    ∀ n, number? v = some n →
      n.less (.int 0) = false ∧ (Number.int 65535).less n = false

structure BackendFields (node : Members) : Prop where
  urlPattern : ∃ s, Members.get? node "url_pattern" = some (.string s)
  hosts : Optional node "host" (IsList IsText)
  method : Optional node "method" (IsOneOf methods)
  encoding : Optional node "encoding" (IsOneOf encodings)
  extra : Optional node "extra_config" IsSection

def ConformsBackend (v : Value) : Prop := ∃ node, v = .object node ∧ BackendFields node

/-- The members of an endpoint. -/
structure EndpointFields (node : Members) : Prop where
  path : ∃ s, Members.get? node "endpoint" = some (.string s) ∧ patternFound "^/" s = .ok true
  method : Optional node "method" (IsOneOf methods)
  timeout : Optional node "timeout" IsDuration
  encoding : Optional node "output_encoding" (IsOneOf encodings)
  headers : Optional node "input_headers" (IsList IsText)
  queries : Optional node "input_query_strings" (IsList IsText)
  extra : Optional node "extra_config" IsSection
  backends : ∃ items, Members.get? node "backend" = some (.array items) ∧ items ≠ [] ∧
    ∀ v ∈ items, ConformsBackend v

def ConformsEndpoint (v : Value) : Prop := ∃ node, v = .object node ∧ EndpointFields node

structure ServiceFields (node : Members) : Prop where
  schemaName : Optional node "$schema" IsText
  version : ∃ v, Members.get? node "version" = some v ∧ v.schemaEq (.int 3) = true
  name : Optional node "name" IsText
  port : Optional node "port" IsPort
  hosts : Optional node "host" (IsList IsText)
  timeout : Optional node "timeout" IsDuration
  cacheTtl : Optional node "cache_ttl" IsDuration
  debug : Optional node "debug_endpoint" IsFlag
  echo : Optional node "echo_endpoint" IsFlag
  encoding : Optional node "output_encoding" (IsOneOf encodings)
  extra : Optional node "extra_config" IsSection
  endpoints : Optional node "endpoints" (IsList ConformsEndpoint)

def ConformsService (v : Value) : Prop := ∃ node, v = .object node ∧ ServiceFields node

/-! ### The schemas of the parts -/

section Parts

variable {w : Walker} {depth : Nat} {v : Value}

theorem passes_text :
    w.Passes (depth + 1) (.object [("type", .string "string")]) v ↔ IsText v := by
  rw [Walker.passes_object, List.forall_mem_singleton, Walker.obeys_type, Walker.isOfType_string]
  rfl

theorem passes_flag :
    w.Passes (depth + 1) (.object [("type", .string "boolean")]) v ↔ IsFlag v := by
  rw [Walker.passes_object, List.forall_mem_singleton, Walker.obeys_type, Walker.isOfType_boolean]
  rfl

theorem passes_section :
    w.Passes (depth + 1) (.object [("type", .string "object")]) v ↔ IsSection v := by
  rw [Walker.passes_object, List.forall_mem_singleton, Walker.obeys_type, Walker.isOfType_object]
  rfl

theorem passes_oneOf (texts : List String) :
    w.Passes (depth + 1) (.object [("enum", .array (texts.map .string))]) v ↔
      IsOneOf texts v := by
  rw [Walker.passes_object, List.forall_mem_singleton, Walker.obeys_enum]
  constructor
  · rintro ⟨choice, hm, he⟩
    obtain ⟨s, hs, rfl⟩ := List.mem_map.mp hm
    cases v with
    | string t => exact ⟨s, hs, by rw [eq_of_beq he]⟩
    | _ => cases he
  · rintro ⟨s, hs, rfl⟩
    exact ⟨.string s, List.mem_map_of_mem hs, beq_self_eq_true s⟩

theorem passes_method :
    w.Passes (depth + 1) (.object [("enum", .array [.string "GET", .string "POST", .string "PUT",
      .string "PATCH", .string "DELETE", .string "HEAD", .string "OPTIONS"])]) v ↔
      IsOneOf methods v := passes_oneOf methods

theorem passes_version :
    w.Passes (depth + 1) (.object [("const", .int 3)]) v ↔ v.schemaEq (.int 3) = true := by
  rw [Walker.passes_object, List.forall_mem_singleton, Walker.obeys_const]

theorem passes_matching {pattern : String} :
    w.Passes (depth + 1) (.object [("type", .string "string"), ("pattern", .string pattern)]) v ↔
      IsMatching pattern v := by
  rw [Walker.passes_object, List.forall_mem_cons, List.forall_mem_singleton, Walker.obeys_type,
    Walker.isOfType_string, Walker.obeys_pattern]
  constructor
  · rintro ⟨⟨s, rfl⟩, h⟩
    exact ⟨s, rfl, h s rfl⟩
  · rintro ⟨s, rfl, h⟩
    refine ⟨⟨s, rfl⟩, fun t ht => ?_⟩
    cases ht
    exact h

theorem passes_port :
    w.Passes (depth + 1) (.object [("type", .string "integer"), ("minimum", .int 0),
      ("maximum", .int 65535)]) v ↔ IsPort v := by
  rw [Walker.passes_object, List.forall_mem_cons, List.forall_mem_cons, List.forall_mem_singleton,
    Walker.obeys_type, Walker.isOfType_integer, Walker.obeys_minimum, Walker.obeys_maximum]
  unfold IsPort
  refine and_congr_right fun _ => ⟨fun h n hn => ⟨h.1 n hn, h.2 n hn⟩, fun h => ?_⟩
  exact ⟨fun n hn => (h n hn).1, fun n hn => (h n hn).2⟩

theorem passes_texts :
    w.Passes (depth + 2) (.object [("type", .string "array"),
      ("items", .object [("type", .string "string")])]) v ↔ IsList IsText v := by
  rw [Walker.passes_list (by decide)]
  simp only [passes_text]
  rfl

end Parts

/-! ### The definitions -/

section Definitions

def bundledWalker (fetch : Fetch) (formats : Bool) (registry : Registry) : Walker :=
  ⟨fetch, formats, .ofRoot registry ⟨.draft2020, bundledSchema⟩⟩

variable {fetch : Fetch} {formats : Bool} {registry : Registry} {depth : Nat} {v : Value}

def definition? (name : String) : Option Value := (bundledSchema.get? "$defs").bind (·.get? name)

/-- Each definition that is referred to, and the reference to it. -/
def definitionRefs : List (String × String) := [("hosts", "#/$defs/hosts"),
  ("duration", "#/$defs/duration"), ("encoding", "#/$defs/encoding"), ("backend", "#/$defs/backend"),
  ("endpoint", "#/$defs/endpoint")]

theorem step_of_mem_definitionRefs : ∀ p ∈ definitionRefs,
    p.2 = "#/$defs/" ++ p.1 ∧ Resolver.IsStep p.1.toList := by decide +kernel

theorem lookup_bundled {name ref : String} {part : Value} (hr : (name, ref) ∈ definitionRefs)
    (hg : definition? name = some part) (hp : Plain part) :
    ((bundledWalker fetch formats registry).resolver.lookup fetch ref).result =
      .ok ⟨part, (bundledWalker fetch formats registry).resolver⟩ := by
  obtain ⟨he, hs⟩ := step_of_mem_definitionRefs _ hr
  obtain ⟨defs, hd, hg⟩ := Option.bind_eq_some_iff.mp hg
  have hi : Dialect.text? defs "$id" = none := by
    cases hd
    rfl
  dsimp only at he hs
  rw [he]
  exact Resolver.lookup_definition (by rfl) hd hi hg hp.id_eq_none hs

theorem passes_definition {name ref : String} {part : Value} (hr : (name, ref) ∈ definitionRefs)
    (hg : definition? name = some part) (hp : Plain part) :
    (bundledWalker fetch formats registry).Passes (depth + 1) (.object [("$ref", .string ref)]) v ↔
      (bundledWalker fetch formats registry).Passes depth part v := by
  rw [Walker.passes_object, List.forall_mem_singleton]
  exact Walker.obeys_ref hp (lookup_bundled hr hg hp)

theorem passes_hosts :
    (bundledWalker fetch formats registry).Passes (depth + 3)
      (.object [("$ref", .string "#/$defs/hosts")]) v ↔ IsList IsText v :=
  (passes_definition (.head _) (by rfl) (by decide)).trans passes_texts

theorem passes_duration :
    (bundledWalker fetch formats registry).Passes (depth + 2)
      (.object [("$ref", .string "#/$defs/duration")]) v ↔ IsDuration v :=
  (passes_definition (.tail _ (.head _)) (by rfl) (by decide)).trans passes_matching

theorem passes_encodings :
    (bundledWalker fetch formats registry).Passes (depth + 2)
      (.object [("$ref", .string "#/$defs/encoding")]) v ↔ IsOneOf encodings v :=
  (passes_definition (.tail _ (.tail _ (.head _))) (by rfl) (by decide)).trans (passes_oneOf encodings)

theorem passes_backend :
    (bundledWalker fetch formats registry).Passes (depth + 5)
      (.object [("$ref", .string "#/$defs/backend")]) v ↔ ConformsBackend v := by
  refine (passes_definition (.tail _ (.tail _ (.tail _ (.head _)))) (by rfl) (by decide)).trans ?_
  refine (Walker.passes_record [] [] ["url_pattern"] (by decide) (by decide)).trans ?_
  refine exists_congr fun node => and_congr_right fun _ => ?_
  simp only [List.forall_mem_cons, List.not_mem_nil, false_imp_iff, implies_true, and_true,
    passes_text, passes_hosts, passes_section, passes_encodings, passes_method]
  constructor
  · rintro ⟨hr, hu, hh, hm, he, hx⟩
    obtain ⟨x, hx'⟩ := exists_of_has hr
    obtain ⟨s, rfl⟩ := hu x hx'
    exact ⟨⟨s, hx'⟩, hh, hm, he, hx⟩
  · rintro ⟨⟨s, hs⟩, hh, hm, he, hx⟩
    refine ⟨has_of_get? hs, fun x hx' => ?_, hh, hm, he, hx⟩
    rw [hs] at hx'
    cases hx'
    exact ⟨s, rfl⟩

theorem passes_backends :
    (bundledWalker fetch formats registry).Passes (depth + 6)
      (.object [("type", .string "array"), ("minItems", .int 1),
        ("items", .object [("$ref", .string "#/$defs/backend")])]) v ↔
      ∃ items, v = .array items ∧ items ≠ [] ∧ ∀ x ∈ items, ConformsBackend x := by
  rw [Walker.passes_object, List.forall_mem_cons, List.forall_mem_cons, List.forall_mem_singleton,
    Walker.obeys_type, Walker.isOfType_array, Walker.obeys_minItems_one,
    Walker.obeys_items (by decide) (by rfl)]
  simp only [passes_backend]
  constructor
  · rintro ⟨⟨items, rfl⟩, hne, h⟩
    exact ⟨items, rfl, fun hn => hne (congrArg _ hn), h items rfl⟩
  · rintro ⟨items, rfl, hne, h⟩
    refine ⟨⟨items, rfl⟩, fun hn => ?_, fun items' hi => ?_⟩
    · cases hn
      exact hne rfl
    · cases hi
      exact h

theorem passes_endpoint :
    (bundledWalker fetch formats registry).Passes (depth + 8)
      (.object [("$ref", .string "#/$defs/endpoint")]) v ↔ ConformsEndpoint v := by
  refine (passes_definition (.tail _ (.tail _ (.tail _ (.tail _ (.head _))))) (by rfl)
    (by decide)).trans ?_
  refine (Walker.passes_record [] [] ["endpoint", "backend"] (by decide) (by decide)).trans ?_
  refine exists_congr fun node => and_congr_right fun _ => ?_
  simp only [List.forall_mem_cons, List.not_mem_nil, false_imp_iff, implies_true, and_true,
    passes_matching, passes_method, passes_duration, passes_encodings, passes_texts, passes_section,
    passes_backends]
  constructor
  · rintro ⟨⟨hre, hrb⟩, hp, hm, ht, he, hh, hq, hx, hb⟩
    obtain ⟨x, hx'⟩ := exists_of_has hre
    obtain ⟨s, rfl, hs⟩ := hp x hx'
    obtain ⟨y, hy⟩ := exists_of_has hrb
    obtain ⟨items, rfl, hne, hi⟩ := hb y hy
    exact ⟨⟨s, hx', hs⟩, hm, ht, he, hh, hq, hx, ⟨items, hy, hne, hi⟩⟩
  · rintro ⟨⟨s, hg, hs⟩, hm, ht, he, hh, hq, hx, ⟨items, hb, hne, hi⟩⟩
    refine ⟨⟨has_of_get? hg, has_of_get? hb⟩, fun x hx' => ?_, hm, ht, he, hh, hq, hx,
      fun y hy => ?_⟩
    · rw [hg] at hx'
      cases hx'
      exact ⟨s, rfl, hs⟩
    · rw [hb] at hy
      cases hy
      exact ⟨items, rfl, hne, hi⟩

theorem passes_endpoints :
    (bundledWalker fetch formats registry).Passes (depth + 9)
      (.object [("type", .string "array"),
        ("items", .object [("$ref", .string "#/$defs/endpoint")])]) v ↔
      IsList ConformsEndpoint v := by
  rw [Walker.passes_list (by decide)]
  simp only [passes_endpoint]
  rfl

theorem passes_service :
    (bundledWalker fetch formats registry).Passes (depth + 10) bundledSchema v ↔
      ConformsService v := by
  refine (Walker.passes_record
    [("$schema", .string "https://json-schema.org/draft/2020-12/schema"),
      ("title", .string "Gateway configuration")] [("$defs", _)] ["version"] ?_ (by decide)).trans ?_
  · rintro m hm
    simp only [List.mem_append, List.mem_cons, List.not_mem_nil, or_false] at hm
    rcases hm with (rfl | rfl) | rfl <;> rfl
  refine exists_congr fun node => and_congr_right fun _ => ?_
  simp only [List.forall_mem_cons, List.not_mem_nil, false_imp_iff, implies_true, and_true,
    passes_text, passes_version, passes_port, passes_hosts, passes_duration, passes_flag,
    passes_encodings, passes_section, passes_endpoints]
  constructor
  · rintro ⟨hr, hs, hv, hn, hp, hh, ht, hc, hd, he, ho, hx, hl⟩
    obtain ⟨x, hx'⟩ := exists_of_has hr
    exact ⟨hs, ⟨x, hx', hv x hx'⟩, hn, hp, hh, ht, hc, hd, he, ho, hx, hl⟩
  · rintro ⟨hs, ⟨x, hg, hv⟩, hn, hp, hh, ht, hc, hd, he, ho, hx, hl⟩
    refine ⟨has_of_get? hg, hs, fun y hy => ?_, hn, hp, hh, ht, hc, hd, he, ho, hx, hl⟩
    rw [hg] at hy
    cases hy
    exact hv

end Definitions

/-! ### The compiled schema -/

/-- A compiled schema that was made of the bundled document. -/
structure IsBundled (schema : Compiled) : Prop where
  dialect : schema.dialect = .draft2020
  document : schema.document = bundledSchema

/-- The bundled document, compiled under the name it goes by, is left as it is. -/
theorem isBundled_of_compile {schema : Compiled}
    (h : (compile Source.embeddedUri bundledSchema).result = .ok schema) : IsBundled schema := by
  have hd : Dialect.evaluating .usual bundledSchema = .ok .draft2020 :=
    eq_ok_of_toOption (by decide +kernel)
  have ha : anchored Source.embeddedUri bundledSchema = bundledSchema := rfl
  have hc := compile_ok_iff.mp h
  exact ⟨hc.dialect_eq hd, hc.document_eq.trans ha⟩

/-- The bundled schema finds nothing in a value exactly when the value conforms. -/
theorem validate_ok_iff_conforms {schema : Compiled} (hb : IsBundled schema) (fetch : Fetch)
    (v : Value) : (schema.validate fetch v).result = .ok () ↔ ConformsService v := by
  rw [Compiled.validate_ok_iff, hb.dialect, hb.document]
  exact passes_service

end Preflight.Gateway

import Preflight.Proofs.Gateway.Conforming

/-!
# Linting and reading agree

The bundled schema and the reader check a configuration each on its own. What the schema allows, the
reader takes, save for two things that the schema does not look at: a port with a point in it, and
placeholders of a backend that its endpoint does not have (`reads_iff_of_valid`).
-/

namespace Preflight.Gateway

open Json Schema Text

/-! ### What the schema does not look at -/

def elements (v : Value) (name : String) : List Value :=
  match v.get? name with
  | some (.array items) => items
  | _ => []

def textAt (v : Value) (name : String) : String :=
  match v.get? name with
  | some (.string s) => s
  | _ => ""

/-- The port is not a floating-point number, unless it is zero. -/
def PortIsWhole (v : Value) : Prop := ∀ x, v.get? "port" = some (.float x) → x.isZero = true

/-- The placeholders of a backend are placeholders of a path. -/
def DeclaredBy (path : String) (backend : Value) : Prop :=
  ∀ p ∈ Routing.params (textAt backend "url_pattern"), p ∈ Routing.params path

/-- The placeholders of every backend are placeholders of its endpoint. -/
def ParamsDeclared (v : Value) : Prop :=
  ∀ endpoint ∈ elements v "endpoints", ∀ backend ∈ elements endpoint "backend",
    DeclaredBy (textAt endpoint "endpoint") backend

variable {v : Value} {node : Members} {path : String}

theorem textAt_of_get? {name s : String} (h : Members.get? node name = some (.string s)) :
    textAt (.object node) name = s := by
  unfold textAt
  rw [Value.get?, h]

theorem elements_of_get? {name : String} {items : List Value}
    (h : Members.get? node name = some (.array items)) : elements (.object node) name = items := by
  unfold elements
  rw [Value.get?, h]

theorem elements_of_none {name : String} (h : Members.get? node name = none) :
    elements (.object node) name = [] := by
  unfold elements
  rw [Value.get?, h]

/-! ### From the shapes of the schema to those of the reader -/

theorem Optional.imp {name : String} {p q : Value → Prop} (h : Optional node name p)
    (hpq : ∀ v, p v → q v) : Optional node name q := fun v hv => hpq v (h v hv)

theorem IsMatching.isText {pattern : String} (h : IsMatching pattern v) : IsText v := by
  obtain ⟨s, rfl, -⟩ := h
  exact ⟨s, rfl⟩

theorem IsOneOf.isText {texts : List String} (h : IsOneOf texts v) : IsText v := by
  obtain ⟨s, -, rfl⟩ := h
  exact ⟨s, rfl⟩

theorem upper_mem_methods : ∀ s ∈ methods, upper s ∈ methods := by decide +kernel

theorem IsOneOf.isMethodName (h : IsOneOf methods v) : IsMethodName v := by
  obtain ⟨s, hs, rfl⟩ := h
  exact ⟨s, rfl, upper_mem_methods s hs⟩

theorem ne_empty_of_path {s : String} (h : patternFound "^/" s = .ok true) : s ≠ "" := by
  rintro rfl
  have he : patternFound "^/" "" = .ok false := eq_ok_of_toOption (by decide +kernel)
  rw [h] at he
  cases he

theorem plainEq_of_schemaEq (h : v.schemaEq (.int supportedVersion) = true) :
    v.plainEq (.int supportedVersion) = true := by
  cases v with
  | int n =>
    have hn : n = supportedVersion := eq_of_beq h
    rw [hn]
    rfl
  | float x => exact h
  | _ => cases h

/-- A port of the schema is read unless it has a point in it and is not zero. -/
theorem isPortNumber_iff (h : IsPort v) :
    IsPortNumber v ↔ ∀ x, v = .float x → x.isZero = true := by
  unfold IsPortNumber
  rcases h.1 with ⟨n, rfl⟩ | ⟨x, rfl, -⟩
  · refine ⟨fun _ x hx => ?_, fun _ _ => ⟨n, rfl⟩⟩
    cases hx
  · constructor
    · intro hp y hy
      cases hy
      cases hz : x.isZero with
      | true => rfl
      | false =>
        have ht : (Value.float x).isTruthy = true := by
          rw [Value.isTruthy, hz]
          rfl
        obtain ⟨n, hn⟩ := hp ht
        cases hn
    · intro hz ht
      rw [Value.isTruthy, hz x rfl] at ht
      cases ht

/-! ### Agreement part by part -/

theorem BackendFields.readable_iff (h : BackendFields node) :
    ReadableBackend path node ↔ DeclaredBy path (.object node) := by
  obtain ⟨s, hs⟩ := h.urlPattern
  unfold DeclaredBy
  rw [textAt_of_get? hs]
  constructor
  · intro hr
    obtain ⟨t, ht, hp⟩ := hr.urlPattern
    rw [hs] at ht
    cases ht
    exact hp
  · intro hp
    exact ⟨⟨s, hs, hp⟩, h.hosts, h.method.imp fun _ => IsOneOf.isText, h.extra⟩

theorem EndpointFields.readable_iff (h : EndpointFields node) :
    ReadableEndpoint node ↔ ∀ backend ∈ elements (.object node) "backend",
      DeclaredBy (textAt (.object node) "endpoint") backend := by
  obtain ⟨path, hp, hs⟩ := h.path
  obtain ⟨items, hi, hne, hb⟩ := h.backends
  rw [textAt_of_get? hp, elements_of_get? hi]
  constructor
  · intro hr backend hm
    obtain ⟨path', items', hp', -, hi', -, hr⟩ := hr.backends
    rw [hp] at hp'
    rw [hi] at hi'
    cases hp'
    cases hi'
    obtain ⟨fields, rfl, hf⟩ := hb backend hm
    obtain ⟨fields', hf', hr⟩ := hr _ hm
    cases hf'
    exact hf.readable_iff.mp hr
  · intro hd
    refine ⟨h.method.imp fun _ => IsOneOf.isMethodName, h.timeout.imp fun _ => IsMatching.isText,
      h.extra, path, items, hp, ne_empty_of_path hs, hi, hne, fun backend hm => ?_⟩
    obtain ⟨fields, rfl, hf⟩ := hb backend hm
    exact ⟨fields, rfl, hf.readable_iff.mpr (hd _ hm)⟩

theorem ServiceFields.endpoints_iff (h : ServiceFields node) :
    Optional node "endpoints" (IsList fun v => ∃ node, v = .object node ∧ ReadableEndpoint node) ↔
      ParamsDeclared (.object node) := by
  unfold ParamsDeclared
  cases hg : Members.get? node "endpoints" with
  | none =>
    rw [elements_of_none hg]
    exact ⟨fun _ endpoint hm => absurd hm List.not_mem_nil, fun _ => optional_of_none hg⟩
  | some list =>
    obtain ⟨items, rfl, he⟩ := h.endpoints list hg
    rw [elements_of_get? hg, optional_iff_of_some hg]
    constructor
    · rintro ⟨items', hi, hr⟩ endpoint hm
      cases hi
      obtain ⟨fields, rfl, hf⟩ := he endpoint hm
      obtain ⟨fields', hf', hr⟩ := hr _ hm
      cases hf'
      exact hf.readable_iff.mp hr
    · intro hd
      refine ⟨items, rfl, fun endpoint hm => ?_⟩
      obtain ⟨fields, rfl, hf⟩ := he endpoint hm
      exact ⟨fields, rfl, hf.readable_iff.mpr (hd _ hm)⟩

theorem ServiceFields.port_iff (h : ServiceFields node) :
    Optional node "port" IsPortNumber ↔ PortIsWhole (.object node) := by
  unfold PortIsWhole
  cases hg : Members.get? node "port" with
  | none =>
    refine ⟨fun _ x hx => ?_, fun _ => optional_of_none hg⟩
    rw [Value.get?, hg] at hx
    cases hx
  | some v =>
    rw [optional_iff_of_some hg, isPortNumber_iff (h.port v hg)]
    refine forall_congr' fun x => ?_
    rw [Value.get?, hg, Option.some.injEq]

theorem ServiceFields.readable_iff (h : ServiceFields node) :
    ReadableService node ↔ PortIsWhole (.object node) ∧ ParamsDeclared (.object node) := by
  rw [← h.port_iff, ← h.endpoints_iff]
  constructor
  · intro hr
    exact ⟨hr.port, hr.endpoints⟩
  · rintro ⟨hp, he⟩
    obtain ⟨version, hv, heq⟩ := h.version
    exact ⟨⟨version, hv, plainEq_of_schemaEq heq⟩, hp, h.name, h.hosts,
      h.timeout.imp fun _ => IsMatching.isText, h.extra, he⟩

/-- A value in which the bundled schema finds nothing is read as a configuration if and only if its
port is whole and its backends have no placeholders but those of their endpoints. -/
theorem reads_iff_of_valid {schema : Compiled} (hb : IsBundled schema) (fetch : Fetch) (v : Value)
    (h : (schema.validate fetch v).result = .ok ()) :
    (∃ config, serviceConfig v = .ok config) ↔ PortIsWhole v ∧ ParamsDeclared v := by
  obtain ⟨node, rfl, hf⟩ := (validate_ok_iff_conforms hb fetch v).mp h
  rw [← hf.readable_iff]
  refine (reads_serviceConfig _).trans ?_
  constructor
  · rintro ⟨node', hn, hr⟩
    cases hn
    exact hr
  · intro hr
    exact ⟨node, rfl, hr⟩

/-- A configuration with one endpoint, whose backend uses the placeholder of the path. -/
def usersConfig : Value :=
  .object [("version", .int 3), ("port", .float (.finite false 0 0)),
    ("endpoints", .array [.object [("endpoint", .string "/users/\x7bid\x7d"),
      ("backend", .array [.object [("url_pattern", .string "/u/\x7bid\x7d")]])]])]

theorem usersConfig_conforms : ConformsService usersConfig := by
  have hp : patternFound "^/" "/users/\x7bid\x7d" = .ok true :=
    eq_ok_of_toOption (by decide +kernel)
  have hbackend : ConformsBackend (.object [("url_pattern", .string "/u/\x7bid\x7d")]) :=
    ⟨_, rfl, ⟨_, rfl⟩, optional_of_none rfl, optional_of_none rfl, optional_of_none rfl,
      optional_of_none rfl⟩
  have hendpoint : ConformsEndpoint (.object [("endpoint", .string "/users/\x7bid\x7d"),
      ("backend", .array [.object [("url_pattern", .string "/u/\x7bid\x7d")]])]) := by
    refine ⟨_, rfl, ⟨_, rfl, hp⟩, optional_of_none rfl, optional_of_none rfl, optional_of_none rfl,
      optional_of_none rfl, optional_of_none rfl, optional_of_none rfl, _, rfl, by simp, ?_⟩
    rw [List.forall_mem_singleton]
    exact hbackend
  have hport : IsPort (.float (.finite false 0 0)) := by
    refine ⟨.inr ⟨_, rfl, by decide +kernel⟩, fun n hn => ?_⟩
    cases hn
    decide +kernel
  refine ⟨_, rfl, optional_of_none rfl, ⟨_, rfl, by decide +kernel⟩, optional_of_none rfl,
    (optional_iff_of_some rfl).mpr hport, optional_of_none rfl, optional_of_none rfl,
    optional_of_none rfl, optional_of_none rfl, optional_of_none rfl, optional_of_none rfl,
    optional_of_none rfl, (optional_iff_of_some rfl).mpr ⟨_, rfl, ?_⟩⟩
  rw [List.forall_mem_singleton]
  exact hendpoint

theorem reads_usersConfig :
    IsBundled ⟨Source.embeddedUri, .draft2020, bundledSchema, .empty⟩ ∧
    ((⟨Source.embeddedUri, .draft2020, bundledSchema, .empty⟩ : Compiled).validate fetchNothing
        usersConfig).result = .ok () ∧
      ((∃ config, serviceConfig usersConfig = .ok config) ↔
        PortIsWhole usersConfig ∧ ParamsDeclared usersConfig) := by
  have hb : IsBundled ⟨Source.embeddedUri, .draft2020, bundledSchema, .empty⟩ := ⟨rfl, rfl⟩
  have hv := (validate_ok_iff_conforms hb fetchNothing usersConfig).mpr usersConfig_conforms
  exact ⟨hb, hv, reads_iff_of_valid hb fetchNothing usersConfig hv⟩

end Preflight.Gateway

import Preflight.Proofs.Gateway.Reading

/-!
# What every configuration that was read keeps to

A configuration that was read from a value has sections with members, endpoints with a path, a
supported method and backends, and no backend asks for a parameter that its endpoint does not have
(`parsed_of_serviceConfig`). Configurations that are made otherwise need not keep to this.
-/

namespace Preflight.Gateway

open Json Text

variable {α : Type} {v : Value} {path place : String}

/-- A section that has members, and so a text. -/
def Extra.IsSection (extra : Extra) : Prop := ∃ members, extra = .members members

/-- A backend of an endpoint with some path, as it is read. -/
structure BackendConfig.Parsed (path : String) (backend : BackendConfig) : Prop where
  params : ∀ p ∈ Routing.params backend.urlPattern, p ∈ Routing.params path
  extra : backend.extra.IsSection

/-- An endpoint as it is read. -/
structure EndpointConfig.Parsed (endpoint : EndpointConfig) : Prop where
  path : endpoint.path ≠ ""
  method : endpoint.method ∈ methods
  served : endpoint.backends ≠ []
  backends : ∀ backend ∈ endpoint.backends, backend.Parsed endpoint.path
  extra : endpoint.extra.IsSection

/-- A configuration as it is read. -/
structure ServiceConfig.Parsed (config : ServiceConfig) : Prop where
  version : config.version.plainEq (.int supportedVersion) = true
  endpoints : ∀ endpoint ∈ config.endpoints, endpoint.Parsed
  extra : config.extra.IsSection

theorem isSection_of_extraAt {node : Members} {extra : Extra} (h : extraAt node place = .ok extra) :
    extra.IsSection := by
  unfold extraAt at h
  split at h
  · cases h
    exact ⟨[], rfl⟩
  · obtain ⟨members, -, rfl⟩ := map_ok_iff.mp h
    exact ⟨members, rfl⟩

theorem forall_mem_of_readEach {read : String → Value → Reading α} {p : α → Prop}
    (h : ∀ place v a, read place v = .ok a → p a) {i : Nat} {vs : List Value} {as : List α}
    (hr : readEach read place i vs = .ok as) : ∀ a ∈ as, p a := by
  induction vs generalizing i as with
  | nil =>
    cases hr
    exact List.forall_mem_nil p
  | cons v vs ih =>
    obtain ⟨first, hf, hr⟩ := bind_ok_iff.mp hr
    obtain ⟨rest, hs, hr⟩ := bind_ok_iff.mp hr
    cases hr
    exact List.forall_mem_cons.mpr ⟨h _ _ _ hf, ih hs⟩

theorem length_of_readEach {read : String → Value → Reading α} {i : Nat} {vs : List Value}
    {as : List α} (hr : readEach read place i vs = .ok as) : as.length = vs.length := by
  induction vs generalizing i as with
  | nil =>
    cases hr
    rfl
  | cons v vs ih =>
    obtain ⟨first, -, hr⟩ := bind_ok_iff.mp hr
    obtain ⟨rest, hs, hr⟩ := bind_ok_iff.mp hr
    cases hr
    rw [List.length_cons, List.length_cons, ih hs]

theorem guard_ok_iff {fails : Bool} {fault : ConfigFault} {r : Reading α} {a : α} :
    (if fails then .error fault else r) = .ok a ↔ fails = false ∧ r = .ok a := by
  cases fails <;> simp

theorem parsed_of_readBackend {backend : BackendConfig}
    (h : readBackend path place v = .ok backend) : backend.Parsed path := by
  obtain ⟨node, -, h⟩ := bind_ok_iff.mp h
  obtain ⟨-, h⟩ := guard_ok_iff.mp h
  obtain ⟨urlPattern, -, h⟩ := bind_ok_iff.mp h
  split at h
  · cases h
  · next hf =>
    obtain ⟨hosts, -, h⟩ := bind_ok_iff.mp h
    obtain ⟨method, -, h⟩ := bind_ok_iff.mp h
    obtain ⟨extra, hx, h⟩ := bind_ok_iff.mp h
    cases h
    exact ⟨(find?_undeclared_eq_none _ _).mp hf, isSection_of_extraAt hx⟩

theorem parsed_of_readEndpoint {endpoint : EndpointConfig}
    (h : readEndpoint place v = .ok endpoint) : endpoint.Parsed := by
  obtain ⟨node, -, h⟩ := bind_ok_iff.mp h
  obtain ⟨path, -, h⟩ := bind_ok_iff.mp h
  obtain ⟨hpath, h⟩ := guard_ok_iff.mp h
  obtain ⟨method, -, h⟩ := bind_ok_iff.mp h
  obtain ⟨hmethod, h⟩ := guard_ok_iff.mp h
  obtain ⟨items, -, h⟩ := bind_ok_iff.mp h
  obtain ⟨hitems, h⟩ := guard_ok_iff.mp h
  obtain ⟨backends, hb, h⟩ := bind_ok_iff.mp h
  obtain ⟨timeout, -, h⟩ := bind_ok_iff.mp h
  obtain ⟨extra, hx, h⟩ := bind_ok_iff.mp h
  cases h
  refine ⟨by simpa using hpath, by simpa using hmethod, ?_,
    forall_mem_of_readEach (fun _ _ _ => parsed_of_readBackend) hb, isSection_of_extraAt hx⟩
  rintro rfl
  have hl := length_of_readEach hb
  rw [List.length_nil, eq_comm, List.length_eq_zero_iff] at hl
  rw [hl] at hitems
  cases hitems

/-- A configuration that was read from a value keeps to what the reading asks for. -/
theorem parsed_of_serviceConfig {config : ServiceConfig} (h : serviceConfig v = .ok config) :
    config.Parsed := by
  unfold serviceConfig at h
  split at h
  · obtain ⟨version, hv, h⟩ := bind_ok_iff.mp h
    obtain ⟨port, -, h⟩ := bind_ok_iff.mp h
    obtain ⟨items, -, h⟩ := bind_ok_iff.mp h
    obtain ⟨name, -, h⟩ := bind_ok_iff.mp h
    obtain ⟨hosts, -, h⟩ := bind_ok_iff.mp h
    obtain ⟨timeout, -, h⟩ := bind_ok_iff.mp h
    obtain ⟨endpoints, he, h⟩ := bind_ok_iff.mp h
    obtain ⟨extra, hx, h⟩ := bind_ok_iff.mp h
    cases h
    refine ⟨?_, forall_mem_of_readEach (fun _ _ _ => parsed_of_readEndpoint) he,
      isSection_of_extraAt hx⟩
    unfold versionAt at hv
    dsimp only at hv
    split at hv
    · next heq =>
      cases hv
      exact heq
    · cases hv
  · cases h

end Preflight.Gateway

import Preflight.Proofs.Gateway.Parsed
import Preflight.Proofs.Routing.Progress
import Preflight.Proofs.Routing.Templates

/-!
# Parameters that a route captures

A path that a tree takes is well formed whatever is in the tree (`inOrder_of_add_ok`). So a route that
is registered for an endpoint that was read has a parameter for whatever a backend of the endpoint asks
for, and the endpoint's path has its placeholders at the heads of its segments (`outputs_captured`).
-/

namespace Preflight.Routing

open Gateway Text

/-! ### Paths that are taken -/

namespace Node

variable {η : Type} {path : String} {handler : η}

theorem not_isCatchAll_of_ofText_ok {text : String} {segment : Segment}
    (h : Segment.ofText path text = .ok segment) (hs : ∀ name, segment ≠ .catchAll name) :
    ¬ IsCatchAll text := by
  intro hc
  obtain ⟨name, rfl⟩ := isCatchAll_iff.mp hc
  rw [ofText_catchAll path (wellNamed_of_ofText_ok h)] at h
  exact hs name (Except.ok.inj h).symm

/-- A path that a tree takes is in order, whatever is in the tree. -/
theorem inOrder_of_add_ok {segments : List String} {node : Node η}
    (h : (Node.add path handler segments node).2 = .ok ()) : InOrder segments := by
  induction segments generalizing node with
  | nil => simp [InOrder]
  | cons text rest ih =>
    rw [inOrder_cons]
    rw [Node.add] at h
    split at h
    · cases h
    · next name hs =>
      split at h
      · cases h
      · next hrest =>
        rw [not_not] at hrest
        subst hrest
        exact ⟨wellNamed_of_ofText_ok hs, fun _ => rfl, by simp [InOrder]⟩
    · next name hs =>
      have hc := not_isCatchAll_of_ofText_ok hs (by simp)
      refine ⟨wellNamed_of_ofText_ok hs, fun h => absurd h hc, ?_⟩
      split at h
      · cases h
      · exact ih h
      · split at h
        · exact ih h
        · cases h
    · next static hs =>
      have hc := not_isCatchAll_of_ofText_ok hs (by simp)
      refine ⟨wellNamed_of_ofText_ok hs, fun h => absurd h hc, ?_⟩
      split at h
      · cases h
      · exact ih h

end Node

theorem wellFormed_of_handle_ok {η : Type} {engine : Engine η} {method path : String} {handler : η}
    (h : (engine.handle method path handler).2 = .ok ()) : WellFormed path := by
  have hadd : ((engine.tree method).add path handler).2 = .ok () := by
    cases hr : ((engine.tree method).add path handler).2 with
    | ok u => rfl
    | error conflict =>
      rw [Engine.handle_of_error hr] at h
      cases h
  by_cases hroot : path.toList.head? = some '/'
  · rw [RouteTree.add_of_rooted _ _ hroot] at hadd
    exact ⟨hroot, Node.inOrder_of_add_ok hadd⟩
  · rw [RouteTree.add, segments?_eq_none hroot] at hadd
    cases hadd

theorem wellFormed_of_start {context : Nat → Option ContextEnd} {config : ServiceConfig}
    {engine : Engine Handler} (h : (start context config).result = .ok engine) :
    ∀ r ∈ engine.routes, WellFormed r.path := by
  by_cases hport : 0 < config.port ∧ config.port < 65536
  · obtain ⟨visited, rest, closing, -, hv⟩ := start_visits context hport
    have he := hv.ends
    rw [h] at he
    cases he with
    | finished hs => exact hs.coexist.wellFormed
    | stopped _ hs => exact hs.coexist.wellFormed
  · rw [start, if_neg hport] at h
    cases h

/-! ### Segments of a registered path -/

/-- Apart from the slash at its head, a path has the segments that its own segments are written as. -/
theorem segments_endpointPath {path : String} (h : (endpointPath path).toList.head? = some '/') :
    "" :: segments (endpointPath path) = (splitString '/' path).map endpointPath := by
  rw [← splitString_endpointPath, splitString]
  cases hl : (endpointPath path).toList with
  | nil => simp [hl] at h
  | cons c rest =>
    obtain rfl : c = '/' := by simpa [hl] using h
    simp [segments, segments?, hl, split]

theorem wellNamed_of_wellFormed {path : String} (h : WellFormed (endpointPath path)) :
    ∀ segment ∈ splitString '/' path, WellNamed (endpointPath segment) := by
  have hempty : WellNamed "" := by decide
  have hall : ∀ segment ∈ (splitString '/' path).map endpointPath, WellNamed segment := by
    rw [← segments_endpointPath h.1]
    exact List.forall_mem_cons.mpr ⟨hempty, h.2.1⟩
  exact fun segment hm => hall _ (List.mem_map_of_mem hm)

/-- What a route of an endpoint captures: each parameter that a backend asks for stands in a segment of
the route's path, and the placeholders of the endpoint's path each stand at the head of a segment. -/
structure Captures (endpoint : EndpointConfig) : Prop where
  outputs : ∀ backend ∈ endpoint.backends, ∀ p ∈ params backend.urlPattern,
    ∃ rest, ":" ++ p ++ rest ∈ segments (endpointPath endpoint.path)
  placeholders : params endpoint.path = (splitString '/' endpoint.path).flatMap params
  leading : ∀ segment ∈ splitString '/' endpoint.path, PlaceholderFirst segment

theorem captured_of_wellFormed {path p : String} (h : WellFormed (endpointPath path))
    (hp : p ∈ params path) : ∃ rest, ":" ++ p ++ rest ∈ segments (endpointPath path) := by
  rw [params_eq_flatMap] at hp
  obtain ⟨segment, hs, hp⟩ := List.mem_flatMap.mp hp
  obtain ⟨rest, hr⟩ := endpointPath_of_mem_params (wellNamed_of_wellFormed h segment hs) hp
  have hm : endpointPath segment ∈ (splitString '/' path).map endpointPath := List.mem_map_of_mem hs
  rw [← segments_endpointPath h.1, hr] at hm
  rcases List.mem_cons.mp hm with he | hm
  · have hl := congrArg String.toList he
    simp at hl
  · exact ⟨rest, hm⟩

theorem captures_of_wellFormed {endpoint : EndpointConfig} (hp : endpoint.Parsed)
    (h : WellFormed (endpointPath endpoint.path)) : Captures endpoint where
  outputs backend hb p hm := captured_of_wellFormed h ((hp.backends backend hb).params p hm)
  placeholders := params_eq_flatMap endpoint.path
  leading segment hs := placeholderFirst_of_wellNamed (wellNamed_of_wellFormed h segment hs)

/-- Once the route of an endpoint that was read is registered, with any engine, it captures all that the
endpoint's backends ask for; so does each such route of a router that started. -/
theorem outputs_captured {v : Json.Value} {config : ServiceConfig} {endpoint : EndpointConfig}
    (h : serviceConfig v = .ok config) (he : endpoint ∈ config.endpoints) :
    (∀ (engine : Engine Handler) (handler : Handler),
      (engine.handle endpoint.method (endpointPath endpoint.path) handler).2 = .ok () →
        Captures endpoint) ∧
    ∀ (context : Nat → Option ContextEnd) (served : ServiceConfig) (engine : Engine Handler),
      (start context served).result = .ok engine →
        ⟨endpoint.method, endpointPath endpoint.path⟩ ∈ engine.routes → Captures endpoint := by
  have hp := (parsed_of_serviceConfig h).endpoints endpoint he
  refine ⟨fun engine handler hok => ?_, fun context served engine hs hr => ?_⟩
  · exact captures_of_wellFormed hp (wellFormed_of_handle_ok hok)
  · exact captures_of_wellFormed hp
      (wellFormed_of_start hs ⟨endpoint.method, endpointPath endpoint.path⟩ hr)

/-- Two parameters, of which one has a suffix, asked for in the other order. -/
def ordersEndpoint : EndpointConfig :=
  ⟨"/users/\x7bid\x7d/orders/\x7border\x7d.json", "GET",
    [⟨"/o/\x7border\x7d?user=\x7bid\x7d", [], "", .members []⟩], "", .members []⟩

def ordersConfig : ServiceConfig :=
  ⟨.int 3, "", 8080, ["http://a"], "", false, false, [ordersEndpoint], .members []⟩

theorem outputs_captured_orders :
    ∃ v engine, serviceConfig v = .ok ordersConfig ∧ ordersEndpoint ∈ ordersConfig.endpoints ∧
      (start (fun _ => none) ordersConfig).result = .ok engine ∧
      ⟨ordersEndpoint.method, endpointPath ordersEndpoint.path⟩ ∈ engine.routes ∧
      Captures ordersEndpoint := by
  let v : Json.Value := .object [("version", .int 3), ("host", .array [.string "http://a"]),
    ("endpoints", .array [.object [
      ("endpoint", .string "/users/\x7bid\x7d/orders/\x7border\x7d.json"),
      ("backend", .array [.object [
        ("url_pattern", .string "/o/\x7border\x7d?user=\x7bid\x7d")]])]])]
  have h : serviceConfig v = .ok ordersConfig := rfl
  have he : ordersEndpoint ∈ ordersConfig.endpoints := List.mem_singleton_self _
  obtain ⟨engine, hs, hr⟩ : ∃ engine, (start (fun _ => none) ordersConfig).result = .ok engine ∧
      ⟨ordersEndpoint.method, endpointPath ordersEndpoint.path⟩ ∈ engine.routes :=
    ⟨_, rfl, by decide +kernel⟩
  exact ⟨v, engine, h, he, hs, hr, (outputs_captured h he).2 _ ordersConfig engine hs hr⟩

end Preflight.Routing

import Mathlib.Data.List.TakeWhile
import Preflight.Proofs.Report.Nodes
import Preflight.Proofs.Routing.Progress

/-!
# Upstreams as a dump shows them

An endpoint has no proxy exactly if its node in a dump of level 2 has no backends or one without hosts.
Otherwise its proxy asks each host that the dump shows, in order (`UpstreamsAgree`), and a router leaves
out just the endpoints without a proxy (`proxies_agree_with_dump`).
-/

namespace Preflight.Report

open Gateway Routing Text

variable {service : ServiceConfig} {endpoint : EndpointConfig} {backend : BackendConfig}
  {backends : List BackendConfig} {level : Int} {node : LabelTree}

/-! ### Targets -/

/-- What is asked at a host for a pattern: the host without all slashes at its end, and the pattern. -/
def IsTarget (host pattern target : String) : Prop :=
  ∃ base n, host.toList = base ++ List.replicate n '/' ∧ base.getLast? ≠ some '/' ∧
    target.toList = base ++ pattern.toList

theorem exists_dropTrailing (c : Char) (s : List Char) :
    (dropTrailing c s).getLast? ≠ some c ∧ ∃ n, s = dropTrailing c s ++ List.replicate n c := by
  unfold dropTrailing
  constructor
  · rw [List.getLast?_reverse]
    intro h
    have hc := List.head?_dropWhile_not (· = c) s.reverse
    rw [h] at hc
    simp at hc
  · have hr : s.reverse.takeWhile (· = c) =
        List.replicate (s.reverse.takeWhile (· = c)).length c := by
      rw [List.eq_replicate_iff]
      exact ⟨rfl, fun d hd => by simpa using List.mem_takeWhile_imp hd⟩
    refine ⟨(s.reverse.takeWhile (· = c)).length, ?_⟩
    have hs : s = (s.reverse.dropWhile (· = c)).reverse ++ (s.reverse.takeWhile (· = c)).reverse := by
      rw [← List.reverse_append, List.takeWhile_append_dropWhile, List.reverse_reverse]
    rw [hr, List.reverse_replicate] at hs
    exact hs

theorem isTarget_target (host pattern : String) : IsTarget host pattern (target pattern host) := by
  obtain ⟨hlast, n, hn⟩ := exists_dropTrailing '/' host.toList
  exact ⟨_, n, hn, hlast, by simp [target]⟩

/-! ### Hosts -/

theorem hostsFor_eq_nil_iff :
    hostsFor service backend = [] ↔ service.hosts = [] ∧ backend.hosts = [] := by
  unfold hostsFor
  cases backend.hosts <;> simp

theorem targets_ok (h : hostsFor service backend ≠ []) :
    targets service backend = .ok ((hostsFor service backend).map (target backend.urlPattern)) := by
  unfold targets
  dsimp only
  rw [if_neg (by simpa using h)]

theorem targets_error (h : hostsFor service backend = []) :
    targets service backend = .error (.noHosts backend.urlPattern) := by
  unfold targets
  dsimp only
  rw [if_pos (by simp [h])]

theorem allTargets_ok (h : ∀ backend ∈ backends, hostsFor service backend ≠ []) :
    allTargets service backends =
      .ok (backends.flatMap fun b => (hostsFor service b).map (target b.urlPattern)) := by
  induction backends with
  | nil => rfl
  | cons backend backends ih =>
    obtain ⟨hb, hbs⟩ := List.forall_mem_cons.mp h
    rw [allTargets, targets_ok hb, ih hbs]
    rfl

theorem allTargets_error (h : ∃ backend ∈ backends, hostsFor service backend = []) :
    ∃ fault, allTargets service backends = .error fault := by
  induction backends with
  | nil => simp at h
  | cons backend backends ih =>
    rw [List.exists_mem_cons_iff] at h
    simp only [allTargets, bind_error_iff]
    by_cases hb : hostsFor service backend = []
    · exact ⟨_, .inl (targets_error hb)⟩
    · obtain ⟨fault, hf⟩ := ih (h.resolve_left hb)
      exact ⟨fault, .inr ⟨_, targets_ok hb, .inl hf⟩⟩

/-- An endpoint has no proxy if it has no backends, or one of them has no hosts and neither has the
service. -/
theorem ofEndpoint_error_iff :
    (∃ fault, Proxy.ofEndpoint service endpoint = .error fault) ↔
      endpoint.backends = [] ∨ ∃ backend ∈ endpoint.backends, hostsFor service backend = [] := by
  unfold Proxy.ofEndpoint
  by_cases hb : endpoint.backends = []
  · simp [hb]
  · rw [if_neg (by simpa using hb)]
    simp only [hb, false_or]
    by_cases hn : ∃ backend ∈ endpoint.backends, hostsFor service backend = []
    · obtain ⟨fault, hf⟩ := allTargets_error hn
      refine ⟨fun _ => hn, fun _ => ⟨fault, ?_⟩⟩
      rw [hf]
      rfl
    · have hok := allTargets_ok fun backend (hm : backend ∈ endpoint.backends) he => hn ⟨backend, hm, he⟩
      refine ⟨?_, fun h => absurd h hn⟩
      rintro ⟨fault, hf⟩
      rw [hok] at hf
      cases hf

theorem targets_of_ofEndpoint {p : Proxy} (h : Proxy.ofEndpoint service endpoint = .ok p) :
    p.targets = endpoint.backends.flatMap fun b => (hostsFor service b).map (target b.urlPattern) := by
  have hn : ¬ (endpoint.backends = [] ∨
      ∃ backend ∈ endpoint.backends, hostsFor service backend = []) := by
    rw [← ofEndpoint_error_iff, h]
    rintro ⟨fault, hf⟩
    cases hf
  rw [not_or] at hn
  have hok := allTargets_ok fun backend (hm : backend ∈ endpoint.backends) he =>
    hn.2 ⟨backend, hm, he⟩
  unfold Proxy.ofEndpoint at h
  rw [if_neg (by simpa using hn.1), hok] at h
  cases h
  rfl

/-! ### Nodes -/

theorem nodesOf_hosts (h : backendNode level service endpoint backend = .ok node) :
    node.nodesOf .hosts = hostsNodes "hosts" (hostsFor service backend) := by
  obtain ⟨extra, hx, h⟩ := bind_ok_iff.mp h
  cases h
  have hself : childNodesOf .hosts (hostsNodes "hosts" (hostsFor service backend)) =
      hostsNodes "hosts" (hostsFor service backend) := by
    refine childNodesOf_eq_self fun child hc => ?_
    obtain ⟨label, rfl⟩ := leaves_hostsNodes _ _ child hc
    rfl
  rw [LabelTree.nodesOf, if_neg (by decide), childNodesOf_append, hself,
    (leaves_extraNodes hx).nodesOf_eq_nil (by decide), List.append_nil]

theorem hostsNodes_eq (title : String) {hosts : List String} (h : hosts ≠ []) :
    hostsNodes title hosts = [.leaf .hosts (title ++ ": " ++ hostsText hosts)] := by
  unfold hostsNodes
  rw [if_neg (by simpa using h)]

theorem hostsNodes_eq_nil_iff {title : String} {hosts : List String} :
    hostsNodes title hosts = [] ↔ hosts = [] := by
  by_cases h : hosts = []
  · simp [hostsNodes, h]
  · simp [hostsNodes_eq title h, h]

theorem hosts_of_endpointNode (h : endpointNode 2 service endpoint = .ok node) :
    List.Forall₂ (fun backend child => child.nodesOf .hosts = hostsNodes "hosts" (hostsFor service backend))
      endpoint.backends (node.nodesOf .backend) := by
  obtain ⟨leaves, nodes, rfl, hb, -, hl⟩ := exists_endpointNode h
  rw [LabelTree.nodesOf, if_neg (by decide), childNodesOf_append, hl _ (by decide) (by decide),
    (nodesOf_backendNodes hb).1, List.nil_append]
  exact forall₂_of_mapM (fun _ _ => nodesOf_hosts) hb

theorem forall₂_exists_iff {α β : Type} {r : α → β → Prop} {p : α → Prop} {q : β → Prop}
    (hpq : ∀ a b, r a b → (p a ↔ q b)) {as : List α} {bs : List β} (h : List.Forall₂ r as bs) :
    (∃ a ∈ as, p a) ↔ ∃ b ∈ bs, q b := by
  induction h with
  | nil => simp
  | cons hab _ ih => rw [List.exists_mem_cons_iff, List.exists_mem_cons_iff, hpq _ _ hab, ih]

/-- The proxy of an endpoint and the endpoint's node in a dump agree on what is asked for it. -/
structure UpstreamsAgree (service : ServiceConfig) (endpoint : EndpointConfig) (node : LabelTree) :
    Prop where
  skipped : routeOf? service endpoint = none ↔ ∃ fault, Proxy.ofEndpoint service endpoint = .error fault
  lacking : (∃ fault, Proxy.ofEndpoint service endpoint = .error fault) ↔ endpoint.backends = [] ∨
    service.hosts = [] ∧ ∃ backend ∈ endpoint.backends, backend.hosts = []
  shown : (∃ fault, Proxy.ofEndpoint service endpoint = .error fault) ↔ node.nodesOf .backend = [] ∨
    ∃ child ∈ node.nodesOf .backend, child.nodesOf .hosts = []
  targets : ∀ p, Proxy.ofEndpoint service endpoint = .ok p →
    List.Forall₂ (fun backend child =>
        child.nodesOf .hosts = [.leaf .hosts ("hosts: " ++ hostsText (hostsFor service backend))])
      endpoint.backends (node.nodesOf .backend) ∧
    List.Forall₂ (fun asked target => IsTarget asked.2 asked.1.urlPattern target)
      (endpoint.backends.flatMap fun backend => (hostsFor service backend).map (backend, ·)) p.targets

theorem upstreamsAgree (h : endpointNode 2 service endpoint = .ok node) :
    UpstreamsAgree service endpoint node := by
  have hhosts := hosts_of_endpointNode h
  have hnil : endpoint.backends = [] ↔ node.nodesOf .backend = [] := by
    rw [← List.length_eq_zero_iff, hhosts.length_eq, List.length_eq_zero_iff]
  refine ⟨?_, ?_, ?_, fun p hp => ⟨?_, ?_⟩⟩
  · unfold routeOf?
    cases Proxy.ofEndpoint service endpoint <;> simp
  · simp only [ofEndpoint_error_iff, hostsFor_eq_nil_iff]
    refine or_congr_right ⟨?_, ?_⟩
    · rintro ⟨backend, hm, hs, hb⟩
      exact ⟨hs, backend, hm, hb⟩
    · rintro ⟨hs, backend, hm, hb⟩
      exact ⟨backend, hm, hs, hb⟩
  · rw [ofEndpoint_error_iff, hnil]
    refine or_congr_right (forall₂_exists_iff (fun backend child hc => ?_) hhosts)
    rw [hc, hostsNodes_eq_nil_iff]
  · have hne : ∀ backend ∈ endpoint.backends, hostsFor service backend ≠ [] := by
      intro backend hm he
      obtain ⟨fault, hf⟩ := ofEndpoint_error_iff.mpr (.inr ⟨backend, hm, he⟩)
      rw [hp] at hf
      cases hf
    refine ((List.forall₂_and_left _ _).mpr ⟨hne, hhosts⟩).imp fun backend child hc => ?_
    rw [hc.2, hostsNodes_eq _ hc.1]
    rfl
  · have htargets : p.targets = (endpoint.backends.flatMap fun backend =>
        (hostsFor service backend).map (backend, ·)).map fun asked => target asked.1.urlPattern asked.2 := by
      rw [targets_of_ofEndpoint hp, List.map_flatMap]
      simp only [List.map_map, Function.comp_def]
    rw [htargets, List.forall₂_map_right_iff, List.forall₂_same]
    exact fun asked _ => isTarget_target asked.2 asked.1.urlPattern

/-! ### Skipped endpoints -/

/-- What is logged of an endpoint without a proxy. -/
def skipText? (service : ServiceConfig) (endpoint : EndpointConfig) : Option String :=
  match Proxy.ofEndpoint service endpoint with
  | .ok _ => none
  | .error fault => some (skippedMessage endpoint.path fault)

def errorTexts (logs : List (Level × String)) : List String :=
  (logs.filter (·.1 = .error)).map Prod.snd

theorem errorTexts_append (a b : List (Level × String)) :
    errorTexts (a ++ b) = errorTexts a ++ errorTexts b := by
  simp [errorTexts]

theorem errorTexts_visits (visited : List EndpointConfig) :
    errorTexts (visited.map (visitRecord service)) = visited.filterMap (skipText? service) := by
  induction visited with
  | nil => rfl
  | cons endpoint visited ih =>
    rw [List.map_cons, ← List.singleton_append, errorTexts_append, ih, filterMap_cons_toList]
    congr 1
    unfold visitRecord skipText?
    cases Proxy.ofEndpoint service endpoint <;> rfl

theorem errorTexts_closing {context : Nat → Option ContextEnd} {asked : List Route} {i : Nat}
    {visited rest : List EndpointConfig} {closing : List (Level × String)}
    {result : Except RouterFault (Engine Handler)}
    (h : Ends context service asked i visited rest closing result) : errorTexts closing = [] := by
  cases h <;> rfl

/-- Each endpoint has a node at level 2, which agrees with its proxy, and a configuration's tree consists
of these nodes. A router with a valid port visits endpoints from the first one on, as far as it comes; it
skips those among them that have no proxy, and no others, with one error for each. -/
theorem proxies_agree_with_dump (service : ServiceConfig) (lead : String)
    (context : Nat → Option ContextEnd) :
    (∀ endpoint, ∃ node, endpointNode 2 service endpoint = .ok node ∧
      UpstreamsAgree service endpoint node) ∧
    (∃ tree, configTree 2 lead service = .ok tree ∧
      List.Forall₂ (fun endpoint node => endpointNode 2 service endpoint = .ok node) service.endpoints
        (tree.nodesOf .endpoint)) ∧
    (0 < service.port ∧ service.port < 65536 → ∃ visited rest closing,
      service.endpoints = visited ++ rest ∧
      (start context service).Visits context service (ownRoutes service.debug service.echo) 0 visited
        rest closing ∧
      errorTexts (start context service).logs = visited.filterMap (skipText? service)) ∧
    (¬ (0 < service.port ∧ service.port < 65536) →
      start context service = ⟨[], [], .error (.invalidPort service.port)⟩) := by
  refine ⟨fun endpoint => ?_, ?_, fun hport => ?_, fun hport => if_neg hport⟩
  · obtain ⟨node, hn⟩ : ∃ node, endpointNode 2 service endpoint = .ok node :=
      exists_endpointNode_ok (.inl (by decide))
    exact ⟨node, hn, upstreamsAgree hn⟩
  · obtain ⟨tree, ht⟩ : ∃ tree, configTree 2 lead service = .ok tree :=
      exists_configTree lead (.inl (by decide))
    exact ⟨tree, ht, (endpointNodes_of_configTree ht).2⟩
  · obtain ⟨visited, rest, closing, hsplit, hv⟩ := start_visits context hport
    refine ⟨visited, rest, closing, hsplit, hv, ?_⟩
    rw [hv.logs, errorTexts_append, errorTexts_visits, errorTexts_closing hv.ends, List.append_nil]

end Preflight.Report

import Preflight.Proofs.Gateway.Parsed
import Preflight.Proofs.Report.Levels

/-!
# Nodes of a dump

Whatever the level, a configuration's tree has one node with the number of endpoints and below it one
node for each endpoint; from level 2 on an endpoint's node has below it one node for each backend
(`Shows`). The tree of a lower level is that of a higher one without the kinds of nodes that only the
higher one has, with all below them (`tree_between_levels`).
-/

namespace Preflight.Report

open Gateway Json Routing

mutual

/-- The nodes of a kind in a tree, from the top down, each with all below it. -/
def LabelTree.nodesOf (kind : NodeKind) : LabelTree → List LabelTree
  | .node k label children =>
    if k = kind then .node k label children :: childNodesOf kind children
    else childNodesOf kind children

def childNodesOf (kind : NodeKind) : List LabelTree → List LabelTree
  | [] => []
  | child :: children => child.nodesOf kind ++ childNodesOf kind children

end

variable {kind other : NodeKind} {level n m : Int} {service : ServiceConfig}
  {endpoint : EndpointConfig} {backend : BackendConfig} {node tree : LabelTree}
  {nodes children : List LabelTree}

/-! ### Nodes of some children -/

theorem childNodesOf_append (a b : List LabelTree) :
    childNodesOf kind (a ++ b) = childNodesOf kind a ++ childNodesOf kind b := by
  induction a with
  | nil => rfl
  | cons child a ih => rw [List.cons_append, childNodesOf, childNodesOf, ih, List.append_assoc]

theorem childNodesOf_eq_nil (h : ∀ child ∈ children, child.nodesOf kind = []) :
    childNodesOf kind children = [] := by
  induction children with
  | nil => rfl
  | cons child children ih =>
    obtain ⟨hc, hcs⟩ := List.forall_mem_cons.mp h
    rw [childNodesOf, hc, ih hcs, List.append_nil]

theorem childNodesOf_eq_self (h : ∀ child ∈ children, child.nodesOf kind = [child]) :
    childNodesOf kind children = children := by
  induction children with
  | nil => rfl
  | cons child children ih =>
    obtain ⟨hc, hcs⟩ := List.forall_mem_cons.mp h
    rw [childNodesOf, hc, ih hcs, List.singleton_append]

def Leaves (kind : NodeKind) (children : List LabelTree) : Prop :=
  ∀ child ∈ children, ∃ label, child = .leaf kind label

theorem Leaves.nodesOf_eq_nil (h : Leaves other children) (hne : other ≠ kind) :
    childNodesOf kind children = [] := by
  refine childNodesOf_eq_nil fun child hc => ?_
  obtain ⟨label, rfl⟩ := h child hc
  rw [LabelTree.leaf, LabelTree.nodesOf, if_neg hne]
  rfl

theorem leaves_attributeNodes (service : ServiceConfig) : Leaves .attribute (attributeNodes service) := by
  intro child hc
  simp only [attributeNodes, List.mem_cons, List.not_mem_nil, or_false] at hc
  rcases hc with rfl | rfl | rfl | rfl | rfl <;> exact ⟨_, rfl⟩

theorem leaves_hostsNodes (title : String) (hosts : List String) :
    Leaves .hosts (hostsNodes title hosts) := by
  intro child hc
  unfold hostsNodes at hc
  split at hc
  · cases hc
  · exact ⟨_, List.mem_singleton.mp hc⟩

theorem leaves_extraNodes {extra : Extra} (h : extraNodes level extra = .ok nodes) :
    Leaves .extra nodes := by
  intro child hc
  unfold extraNodes at h
  split at h
  · cases h
    cases hc
  · cases extra with
    | members members =>
      cases h
      exact ⟨_, List.mem_singleton.mp hc⟩
    | unrenderable reason => cases h

theorem leaves_timeoutNodes (timeout : String) : Leaves .attribute
    (if timeout == "" then [] else [.leaf .attribute ("timeout: " ++ escape timeout)]) := by
  intro child hc
  split at hc
  · cases hc
  · exact ⟨_, List.mem_singleton.mp hc⟩

/-! ### What each node shows -/

def endpointLabel (endpoint : EndpointConfig) : String :=
  "[b]" ++ endpoint.method ++ "[/b] " ++ escape endpoint.path

/-- The method that a backend is asked with: its own, or else that of its endpoint. -/
def methodFor (endpoint : EndpointConfig) (backend : BackendConfig) : String :=
  if backend.method == "" then endpoint.method else backend.method

def backendLabel (endpoint : EndpointConfig) (backend : BackendConfig) : String :=
  "backend " ++ escape (methodFor endpoint backend) ++ " " ++ escape backend.urlPattern

def countLabel (service : ServiceConfig) : String := s!"{service.endpoints.length} endpoint(s)"

/-- A node for a backend of an endpoint. -/
structure ShowsBackend (endpoint : EndpointConfig) (backend : BackendConfig) (node : LabelTree) :
    Prop where
  kind : node.kind = .backend
  label : node.label = backendLabel endpoint backend

/-- A node for an endpoint: from level 2 on it has one child for each backend, in order, and no other
node for a backend below it; at lower levels it has none. -/
structure ShowsEndpoint (level : Int) (endpoint : EndpointConfig) (node : LabelTree) : Prop where
  kind : node.kind = .endpoint
  label : node.label = endpointLabel endpoint
  below : node.nodesOf .backend = node.children.filter (·.kind = .backend)
  backends : List.Forall₂ (ShowsBackend endpoint) (if level < 2 then [] else endpoint.backends)
    (node.nodesOf .backend)

/-- A tree for a configuration: it has one node that counts the endpoints, and below that one for each
endpoint, in order, and no other node for an endpoint. -/
structure Shows (level : Int) (service : ServiceConfig) (tree : LabelTree) : Prop where
  count : tree.nodesOf .endpoints = [.node .endpoints (countLabel service) (tree.nodesOf .endpoint)]
  endpoints : List.Forall₂ (ShowsEndpoint level) service.endpoints (tree.nodesOf .endpoint)

theorem nodesOf_backendNode (h : backendNode level service endpoint backend = .ok node) :
    node.nodesOf .backend = [node] ∧ node.nodesOf .endpoint = [] ∧ node.nodesOf .endpoints = [] := by
  obtain ⟨extra, hx, h⟩ := bind_ok_iff.mp h
  cases h
  have hnil {kind : NodeKind} (hh : .hosts ≠ kind) (hk : .extra ≠ kind) : childNodesOf kind
      (hostsNodes "hosts" (hostsFor service backend) ++ extra) = [] := by
    rw [childNodesOf_append, (leaves_hostsNodes _ _).nodesOf_eq_nil hh,
      (leaves_extraNodes hx).nodesOf_eq_nil hk, List.append_nil]
  refine ⟨?_, ?_, ?_⟩
  · rw [LabelTree.nodesOf, if_pos rfl, hnil (by decide) (by decide)]
  · rw [LabelTree.nodesOf, if_neg (by decide), hnil (by decide) (by decide)]
  · rw [LabelTree.nodesOf, if_neg (by decide), hnil (by decide) (by decide)]

theorem showsBackend_of_backendNode (h : backendNode level service endpoint backend = .ok node) :
    ShowsBackend endpoint backend node := by
  obtain ⟨extra, -, h⟩ := bind_ok_iff.mp h
  cases h
  exact ⟨rfl, rfl⟩

theorem showsBackends_of_backendNodes (h : backendNodes level service endpoint = .ok nodes) :
    List.Forall₂ (ShowsBackend endpoint) (if level < 2 then [] else endpoint.backends) nodes := by
  unfold backendNodes at h
  split at h
  · next hl =>
    cases h
    rw [if_pos hl]
    exact .nil
  · next hl =>
    rw [if_neg hl]
    exact forall₂_of_mapM (fun _ _ => showsBackend_of_backendNode) h

theorem nodesOf_backendNodes (h : backendNodes level service endpoint = .ok nodes) :
    childNodesOf .backend nodes = nodes ∧ childNodesOf .endpoint nodes = [] ∧
      childNodesOf .endpoints nodes = [] := by
  unfold backendNodes at h
  split at h
  · cases h
    exact ⟨rfl, rfl, rfl⟩
  · have hn := forall_mem_of_mapM (fun _ _ => nodesOf_backendNode) h
    exact ⟨childNodesOf_eq_self fun child hc => (hn child hc).1,
      childNodesOf_eq_nil fun child hc => (hn child hc).2.1,
      childNodesOf_eq_nil fun child hc => (hn child hc).2.2⟩

theorem kind_of_backendNodes (h : backendNodes level service endpoint = .ok nodes) :
    ∀ child ∈ nodes, child.kind = .backend := by
  unfold backendNodes at h
  split at h
  · cases h
    exact List.forall_mem_nil _
  · exact forall_mem_of_mapM (fun _ _ => backendNode_kind) h

theorem filter_leaves (h : Leaves other children) (hne : other ≠ kind) :
    children.filter (·.kind = kind) = [] := by
  rw [List.filter_eq_nil_iff]
  intro child hc
  obtain ⟨label, rfl⟩ := h child hc
  exact fun he => hne (of_decide_eq_true he)

/-- The children of an endpoint's node, and which nodes are among and below them. -/
theorem exists_endpointNode (h : endpointNode level service endpoint = .ok node) :
    ∃ leaves backends, node = .node .endpoint (endpointLabel endpoint) (leaves ++ backends) ∧
      backendNodes level service endpoint = .ok backends ∧
      leaves.filter (·.kind = .backend) = [] ∧
      ∀ kind, .attribute ≠ kind → .extra ≠ kind → childNodesOf kind leaves = [] := by
  obtain ⟨extra, hx, h⟩ := bind_ok_iff.mp h
  obtain ⟨backends, hb, h⟩ := bind_ok_iff.mp h
  cases h
  refine ⟨_, backends, rfl, hb, ?_, fun kind ha hk => ?_⟩
  · rw [List.filter_append, filter_leaves (leaves_timeoutNodes _) (by decide),
      filter_leaves (leaves_extraNodes hx) (by decide), List.append_nil]
  · rw [childNodesOf_append, (leaves_timeoutNodes _).nodesOf_eq_nil ha,
      (leaves_extraNodes hx).nodesOf_eq_nil hk, List.append_nil]

theorem nodesOf_endpointNode (h : endpointNode level service endpoint = .ok node) :
    node.nodesOf .endpoint = [node] ∧ node.nodesOf .endpoints = [] := by
  obtain ⟨leaves, backends, rfl, hb, -, hl⟩ := exists_endpointNode h
  obtain ⟨-, he, hs⟩ := nodesOf_backendNodes hb
  constructor
  · rw [LabelTree.nodesOf, if_pos rfl, childNodesOf_append, hl _ (by decide) (by decide), he,
      List.append_nil]
  · rw [LabelTree.nodesOf, if_neg (by decide), childNodesOf_append, hl _ (by decide) (by decide), hs,
      List.append_nil]

theorem showsEndpoint_of_endpointNode (h : endpointNode level service endpoint = .ok node) :
    ShowsEndpoint level endpoint node := by
  obtain ⟨leaves, backends, rfl, hb, hf, hl⟩ := exists_endpointNode h
  have hnodes : (LabelTree.node .endpoint (endpointLabel endpoint) (leaves ++ backends)).nodesOf
      .backend = backends := by
    rw [LabelTree.nodesOf, if_neg (by decide), childNodesOf_append, hl _ (by decide) (by decide),
      (nodesOf_backendNodes hb).1, List.nil_append]
  refine ⟨rfl, rfl, ?_, by rw [hnodes]; exact showsBackends_of_backendNodes hb⟩
  rw [hnodes, LabelTree.children, List.filter_append, hf, List.nil_append, eq_comm,
    List.filter_eq_self]
  exact fun child hc => decide_eq_true (kind_of_backendNodes hb child hc)

/-- The children of a configuration's tree: leaves, and behind them the node of the endpoints. -/
theorem exists_configNode {lead : String} (h : configTree level lead service = .ok tree) :
    ∃ label leaves endpoints, tree = .node .service label
        (leaves ++ [.node .endpoints (countLabel service) endpoints]) ∧
      service.endpoints.mapM (endpointNode level service) = .ok endpoints ∧
      ∀ kind, .attribute ≠ kind → .hosts ≠ kind → .extra ≠ kind → childNodesOf kind leaves = [] := by
  obtain ⟨extra, hx, h⟩ := bind_ok_iff.mp h
  obtain ⟨endpoints, he, h⟩ := bind_ok_iff.mp h
  cases h
  refine ⟨_, _, endpoints, rfl, he, fun kind ha hh hk => ?_⟩
  rw [childNodesOf_append, childNodesOf_append, (leaves_attributeNodes service).nodesOf_eq_nil ha,
    (leaves_hostsNodes _ _).nodesOf_eq_nil hh, (leaves_extraNodes hx).nodesOf_eq_nil hk]
  rfl

/-- The nodes of the endpoints in a configuration's tree are those that the endpoints have. -/
theorem endpointNodes_of_configTree {lead : String} (h : configTree level lead service = .ok tree) :
    tree.nodesOf .endpoints = [.node .endpoints (countLabel service) (tree.nodesOf .endpoint)] ∧
      List.Forall₂ (fun endpoint node => endpointNode level service endpoint = .ok node)
        service.endpoints (tree.nodesOf .endpoint) := by
  obtain ⟨label, leaves, endpoints, rfl, he, hl⟩ := exists_configNode h
  have hnodes := forall_mem_of_mapM (fun _ _ => nodesOf_endpointNode) he
  have hown : childNodesOf .endpoint endpoints = endpoints :=
    childNodesOf_eq_self fun child hc => (hnodes child hc).1
  have hnone : childNodesOf .endpoints endpoints = [] :=
    childNodesOf_eq_nil fun child hc => (hnodes child hc).2
  have hendpoints : (LabelTree.node .service label
      (leaves ++ [.node .endpoints (countLabel service) endpoints])).nodesOf .endpoint = endpoints := by
    rw [LabelTree.nodesOf, if_neg (by decide), childNodesOf_append,
      hl _ (by decide) (by decide) (by decide), childNodesOf, LabelTree.nodesOf, if_neg (by decide), hown]
    exact List.append_nil endpoints
  refine ⟨?_, ?_⟩
  · rw [hendpoints, LabelTree.nodesOf, if_neg (by decide), childNodesOf_append,
      hl _ (by decide) (by decide) (by decide), childNodesOf, LabelTree.nodesOf, if_pos rfl, hnone]
    rfl
  · rw [hendpoints]
    exact forall₂_of_mapM (fun _ _ => id) he

/-- The tree of a configuration at a level shows it as the level says. -/
theorem shows_of_configTree {lead : String} (h : configTree level lead service = .ok tree) :
    Shows level service tree :=
  ⟨(endpointNodes_of_configTree h).1,
    (endpointNodes_of_configTree h).2.imp fun _ _ => showsEndpoint_of_endpointNode⟩

/-! ### Trees that can be made -/

/-- A configuration whose sections all have a text. -/
structure Renderable (service : ServiceConfig) : Prop where
  extra : service.extra.IsSection
  endpoints : ∀ endpoint ∈ service.endpoints, endpoint.extra.IsSection
  backends : ∀ endpoint ∈ service.endpoints, ∀ backend ∈ endpoint.backends, backend.extra.IsSection

theorem exists_extraNodes {extra : Extra} (h : level < 3 ∨ extra.IsSection) :
    ∃ nodes, extraNodes level extra = .ok nodes := by
  unfold extraNodes
  split
  · exact ⟨_, rfl⟩
  · next hn =>
    rcases h with hl | ⟨members, rfl⟩
    · exact absurd (by simp [hl]) hn
    · exact ⟨_, rfl⟩

theorem exists_backendNode (endpoint : EndpointConfig) (h : level < 3 ∨ backend.extra.IsSection) :
    ∃ node, backendNode level service endpoint backend = .ok node := by
  obtain ⟨nodes, hn⟩ := exists_extraNodes h
  exact ⟨_, bind_ok_iff.mpr ⟨nodes, hn, rfl⟩⟩

theorem exists_endpointNode_ok (h : level < 3 ∨ endpoint.extra.IsSection ∧
    ∀ backend ∈ endpoint.backends, backend.extra.IsSection) :
    ∃ node, endpointNode level service endpoint = .ok node := by
  obtain ⟨extra, hx⟩ := exists_extraNodes (h.imp_right And.left)
  obtain ⟨backends, hb⟩ : ∃ nodes, backendNodes level service endpoint = .ok nodes := by
    unfold backendNodes
    split
    · exact ⟨_, rfl⟩
    · exact exists_mapM fun backend hm =>
        exists_backendNode endpoint (h.imp_right fun hs => hs.2 backend hm)
  exact ⟨_, bind_ok_iff.mpr ⟨extra, hx, bind_ok_iff.mpr ⟨backends, hb, rfl⟩⟩⟩

theorem exists_configTree (lead : String) (h : level < 3 ∨ Renderable service) :
    ∃ tree, configTree level lead service = .ok tree := by
  obtain ⟨extra, hx⟩ := exists_extraNodes (h.imp_right Renderable.extra)
  obtain ⟨endpoints, he⟩ := exists_mapM (f := endpointNode level service) fun endpoint hm =>
    exists_endpointNode_ok (h.imp_right fun hr => ⟨hr.endpoints endpoint hm, hr.backends endpoint hm⟩)
  exact ⟨_, bind_ok_iff.mpr ⟨extra, hx, bind_ok_iff.mpr ⟨endpoints, he, rfl⟩⟩⟩

/-! ### From one level to another -/

mutual

theorem without_without (f g : NodeKind → Bool) (tree : LabelTree) :
    (tree.without f).without g = tree.without fun kind => f kind || g kind := by
  obtain ⟨kind, label, children⟩ := tree
  rw [LabelTree.without, LabelTree.without, LabelTree.without, childrenWithout_childrenWithout]

theorem childrenWithout_childrenWithout (f g : NodeKind → Bool) (children : List LabelTree) :
    childrenWithout g (childrenWithout f children) =
      childrenWithout (fun kind => f kind || g kind) children := by
  cases children with
  | nil => rfl
  | cons child children =>
    have hkind : (child.without f).kind = child.kind := by
      cases child
      rfl
    rw [childrenWithout, childrenWithout]
    by_cases hf : f child.kind = true
    · rw [if_pos hf, if_pos (by rw [hf]; rfl), childrenWithout_childrenWithout f g children]
    · rw [if_neg hf, childrenWithout, hkind, without_without f g child,
        childrenWithout_childrenWithout f g children]
      rw [Bool.not_eq_true] at hf
      rw [hf, Bool.false_or]

end

/-- The kinds of nodes that a level has and a lower one has not. -/
def hiddenBetween (n m : Int) : NodeKind → Bool
  | .extra => n < 3 && 3 ≤ m
  | .backend => n < 2 && 2 ≤ m
  | _ => false

theorem hiddenAt_or_hiddenBetween (hnm : n ≤ m) :
    (fun kind => hiddenAt m kind || hiddenBetween n m kind) = hiddenAt n := by
  funext kind
  cases kind with
  | extra =>
    rw [hiddenAt, hiddenAt, hiddenBetween, ← Bool.decide_and, ← Bool.decide_or]
    exact decide_eq_decide.mpr (by omega)
  | backend =>
    rw [hiddenAt, hiddenAt, hiddenBetween, ← Bool.decide_and, ← Bool.decide_or]
    exact decide_eq_decide.mpr (by omega)
  | _ => rfl

/-- What a level hides is not in its own tree. -/
theorem without_hiddenAt {lead : String} (h : configTree m lead service = .ok tree) :
    tree.without (hiddenAt m) = tree := by
  have hw := configTree_without (Int.le_refl m) h
  rw [h] at hw
  exact (Except.ok.inj hw).symm

theorem without_hiddenBetween {lead : String} (hnm : n ≤ m)
    (h : configTree m lead service = .ok tree) :
    tree.without (hiddenBetween n m) = tree.without (hiddenAt n) := by
  conv => lhs; rw [← without_hiddenAt h]
  rw [without_without, hiddenAt_or_hiddenBetween hnm]

/-- A configuration whose sections have a text has a tree at each level, which shows its endpoints and
backends as the level says. At a lower level that is the same tree without the nodes of sections, if only
the higher level has them, and without those of backends, if only the higher level has them; so all levels
from 3 on have the same tree. -/
theorem tree_between_levels (hnm : n ≤ m) (hr : Renderable service) (lead : String) :
    ∃ tree, configTree m lead service = .ok tree ∧
      configTree n lead service = .ok (tree.without (hiddenBetween n m)) ∧
      (3 ≤ n → configTree n lead service = configTree m lead service) ∧
      Shows n service (tree.without (hiddenBetween n m)) ∧ Shows m service tree := by
  obtain ⟨tree, ht⟩ : ∃ tree, configTree m lead service = .ok tree := exists_configTree lead (.inr hr)
  have hn : configTree n lead service = .ok (tree.without (hiddenBetween n m)) := by
    rw [without_hiddenBetween hnm ht]
    exact configTree_without hnm ht
  refine ⟨tree, ht, hn, fun h3 => ?_, shows_of_configTree hn, shows_of_configTree ht⟩
  have hsame : hiddenAt n = hiddenAt m := by
    funext kind
    cases kind with
    | extra => exact decide_eq_decide.mpr (by omega)
    | backend => exact decide_eq_decide.mpr (by omega)
    | _ => rfl
  rw [hn, ht, without_hiddenBetween hnm ht, hsame, without_hiddenAt ht]

/-- A service with a section, an endpoint with two backends, and one of these with a section. -/
def sectionedService : ServiceConfig :=
  ⟨.int 3, "", 8080, ["http://a"], "", false, false,
    [⟨"/users", "GET", [⟨"/u", [], "", .members [("qos", .int 1)]⟩,
      ⟨"/v", ["http://b"], "POST", .members []⟩], "1s", .members []⟩],
    .members [("telemetry", .bool true)]⟩

theorem tree_between_first_and_third : (1 : Int) ≤ 3 ∧ Renderable sectionedService ∧
    ∃ tree, configTree 3 "" sectionedService = .ok tree ∧
      configTree 1 "" sectionedService = .ok (tree.without (hiddenBetween 1 3)) ∧
      Shows 1 sectionedService (tree.without (hiddenBetween 1 3)) ∧ Shows 3 sectionedService tree := by
  have hr : Renderable sectionedService := by
    refine ⟨⟨_, rfl⟩, ?_, ?_⟩
    · simp [sectionedService, Extra.IsSection]
    · simp [sectionedService, Extra.IsSection]
  obtain ⟨tree, ht, hn, -, hs, hs'⟩ := tree_between_levels (by decide : (1 : Int) ≤ 3) hr ""
  exact ⟨by decide, hr, tree, ht, hn, hs, hs'⟩

end Preflight.Report

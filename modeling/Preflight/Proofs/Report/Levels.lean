import Preflight.Proofs.Gateway.Reading
import Preflight.Proofs.Results
import Preflight.Report.Dump

/-!
# Levels of a dump

A tree can be drawn exactly if each of its labels can be shown (`exists_lines_iff`). The tree of a
configuration at a level is the tree of a higher level without the nodes that the lower one hides
(`configTree_without`), so what can be dumped at a level can be dumped at each lower one
(`exists_dump_of_le`).
-/

namespace Preflight.Report

open Gateway

mutual

/-- A tree without the nodes of some kinds and all below them; the root stays. -/
def LabelTree.without (hidden : NodeKind → Bool) : LabelTree → LabelTree
  | .node kind label children => .node kind label (childrenWithout hidden children)

def childrenWithout (hidden : NodeKind → Bool) : List LabelTree → List LabelTree
  | [] => []
  | child :: children =>
    if hidden child.kind then childrenWithout hidden children
    else child.without hidden :: childrenWithout hidden children

end

mutual

def LabelTree.labels : LabelTree → List String
  | .node _ label children => label :: childLabels children

def childLabels : List LabelTree → List String
  | [] => []
  | child :: children => child.labels ++ childLabels children

end

/-- The kinds of nodes that a level hides. -/
def hiddenAt (level : Int) : NodeKind → Bool
  | .extra => level < 3
  | .backend => level < 2
  | _ => false

variable {hidden : NodeKind → Bool} {screen : Screen} {width : Nat} {n m : Int} {service : ServiceConfig}

/-! ### Labels -/

def Showable (label : String) : Prop := ∃ signs, readMarkup label.toList = .ok signs

theorem exists_labelLines_iff {label : String} :
    (∃ lines, labelLines screen width label = .ok lines) ↔ Showable label := by
  constructor
  · rintro ⟨lines, h⟩
    obtain ⟨shown, hs, -⟩ := bind_ok_iff.mp h
    obtain ⟨signs, hs, -⟩ := map_ok_iff.mp hs
    exact ⟨signs, hs⟩
  · rintro ⟨signs, hs⟩
    exact ⟨_, bind_ok_iff.mpr ⟨_, map_ok_iff.mpr ⟨signs, hs, rfl⟩, rfl⟩⟩

mutual

/-- A tree can be drawn exactly if all its labels can be shown. -/
theorem exists_lines_iff (screen : Screen) (tree : LabelTree) (first other : List Char) :
    (∃ lines, tree.lines screen first other = .ok lines) ↔ ∀ label ∈ tree.labels, Showable label := by
  obtain ⟨kind, label, children⟩ := tree
  have hlabel : (∃ lines, labelLines screen (screen.width - Text.cells other) label = .ok lines) ↔
      Showable label := exists_labelLines_iff
  rw [LabelTree.labels, List.forall_mem_cons, ← hlabel, ← exists_childLines_iff screen children other,
    LabelTree.lines]
  constructor
  · rintro ⟨lines, h⟩
    obtain ⟨own, ho, h⟩ := bind_ok_iff.mp h
    obtain ⟨below, hb, -⟩ := bind_ok_iff.mp h
    exact ⟨⟨own, ho⟩, below, hb⟩
  · rintro ⟨⟨own, ho⟩, below, hb⟩
    exact ⟨_, bind_ok_iff.mpr ⟨own, ho, bind_ok_iff.mpr ⟨below, hb, rfl⟩⟩⟩

theorem exists_childLines_iff (screen : Screen) (children : List LabelTree) (above : List Char) :
    (∃ lines, childLines screen above children = .ok lines) ↔
      ∀ label ∈ childLabels children, Showable label := by
  cases children with
  | nil => exact ⟨fun _ => List.forall_mem_nil _, fun _ => ⟨[], rfl⟩⟩
  | cons child children =>
    rw [childLabels, List.forall_mem_append,
      ← exists_lines_iff screen child (above ++ firstJoin children.isEmpty)
        (above ++ otherJoin children.isEmpty),
      ← exists_childLines_iff screen children above, childLines]
    constructor
    · rintro ⟨lines, h⟩
      obtain ⟨own, ho, h⟩ := bind_ok_iff.mp h
      obtain ⟨rest, hr, -⟩ := bind_ok_iff.mp h
      exact ⟨⟨own, ho⟩, rest, hr⟩
    · rintro ⟨⟨own, ho⟩, rest, hr⟩
      exact ⟨_, bind_ok_iff.mpr ⟨own, ho, bind_ok_iff.mpr ⟨rest, hr, rfl⟩⟩⟩

end

mutual

theorem labels_without (hidden : NodeKind → Bool) (tree : LabelTree) :
    ∀ label ∈ (tree.without hidden).labels, label ∈ tree.labels := by
  obtain ⟨kind, label, children⟩ := tree
  rw [LabelTree.without, LabelTree.labels, LabelTree.labels]
  intro l hl
  rcases List.mem_cons.mp hl with rfl | hl
  · exact List.mem_cons_self
  · exact List.mem_cons_of_mem _ (childLabels_without hidden children l hl)

theorem childLabels_without (hidden : NodeKind → Bool) (children : List LabelTree) :
    ∀ label ∈ childLabels (childrenWithout hidden children), label ∈ childLabels children := by
  cases children with
  | nil => exact fun _ h => h
  | cons child children =>
    intro l hl
    rw [childLabels, List.mem_append]
    rw [childrenWithout] at hl
    split at hl
    · exact .inr (childLabels_without hidden children l hl)
    · rw [childLabels, List.mem_append] at hl
      rcases hl with hl | hl
      · exact .inl (labels_without hidden child l hl)
      · exact .inr (childLabels_without hidden children l hl)

end

theorem exists_printed_iff {tree : LabelTree} :
    (∃ text, tree.printed screen = .ok text) ↔ ∀ label ∈ tree.labels, Showable label := by
  rw [← exists_lines_iff screen tree [] []]
  constructor
  · rintro ⟨text, h⟩
    obtain ⟨lines, hl, -⟩ := bind_ok_iff.mp h
    exact ⟨lines, hl⟩
  · rintro ⟨lines, hl⟩
    exact ⟨_, bind_ok_iff.mpr ⟨lines, hl, rfl⟩⟩

/-! ### Hiding nodes -/

theorem childrenWithout_append (a b : List LabelTree) :
    childrenWithout hidden (a ++ b) = childrenWithout hidden a ++ childrenWithout hidden b := by
  induction a with
  | nil => rfl
  | cons child a ih =>
    rw [List.cons_append, childrenWithout, childrenWithout, ih]
    split <;> rfl

theorem childrenWithout_eq_map {kind : NodeKind} (hk : hidden kind = false) {children : List LabelTree}
    (h : ∀ child ∈ children, child.kind = kind) :
    childrenWithout hidden children = children.map (·.without hidden) := by
  induction children with
  | nil => rfl
  | cons child children ih =>
    obtain ⟨hc, hcs⟩ := List.forall_mem_cons.mp h
    rw [childrenWithout, hc, hk, if_neg (by decide), ih hcs, List.map_cons]

theorem childrenWithout_eq_nil {kind : NodeKind} (hk : hidden kind = true) {children : List LabelTree}
    (h : ∀ child ∈ children, child.kind = kind) : childrenWithout hidden children = [] := by
  induction children with
  | nil => rfl
  | cons child children ih =>
    obtain ⟨hc, hcs⟩ := List.forall_mem_cons.mp h
    rw [childrenWithout, hc, hk, if_pos rfl, ih hcs]

theorem childrenWithout_leaves {children : List LabelTree}
    (h : ∀ child ∈ children, hidden child.kind = false ∧ child.children = []) :
    childrenWithout hidden children = children := by
  induction children with
  | nil => rfl
  | cons child children ih =>
    obtain ⟨⟨hk, hc⟩, hcs⟩ := List.forall_mem_cons.mp h
    obtain ⟨kind, label, below⟩ := child
    obtain rfl : below = [] := hc
    rw [childrenWithout, hk, if_neg (by decide), ih hcs]
    rfl

/-! ### The tree of a configuration -/

theorem hostsNodes_without (level : Int) (title : String) (hosts : List String) :
    childrenWithout (hiddenAt level) (hostsNodes title hosts) = hostsNodes title hosts := by
  refine childrenWithout_leaves fun child hc => ?_
  unfold hostsNodes at hc
  split at hc
  · cases hc
  · rw [List.mem_singleton.mp hc]
    exact ⟨rfl, rfl⟩

theorem attributeNodes_without (level : Int) (service : ServiceConfig) :
    childrenWithout (hiddenAt level) (attributeNodes service) = attributeNodes service := rfl

theorem extraNodes_without (hnm : n ≤ m) {extra : Extra} {nodes : List LabelTree}
    (h : extraNodes m extra = .ok nodes) :
    extraNodes n extra = .ok (childrenWithout (hiddenAt n) nodes) := by
  unfold extraNodes at h ⊢
  by_cases hm : (decide (m < 3) || extra.isEmpty) = true
  · have hn : (decide (n < 3) || extra.isEmpty) = true := by
      rw [Bool.or_eq_true, decide_eq_true_eq] at hm ⊢
      exact hm.imp_left fun hm => by omega
    rw [if_pos hm] at h
    rw [if_pos hn]
    cases h
    rfl
  · rw [if_neg hm] at h
    have he : extra.isEmpty = false := by
      rw [Bool.or_eq_true, not_or] at hm
      exact Bool.eq_false_iff.mpr hm.2
    cases extra with
    | unrenderable reason => cases h
    | members members =>
      cases h
      by_cases hn : n < 3
      · have hk : hiddenAt n .extra = true := decide_eq_true hn
        rw [if_pos (by simp [hn]), childrenWithout, LabelTree.leaf, LabelTree.kind, hk, if_pos rfl]
        rfl
      · have hk : hiddenAt n .extra = false := decide_eq_false hn
        rw [if_neg (by simp [hn, he]), childrenWithout, LabelTree.leaf, LabelTree.kind, hk,
          if_neg (by decide)]
        rfl

theorem backendNode_without (hnm : n ≤ m) {endpoint : EndpointConfig} {backend : BackendConfig}
    {tree : LabelTree} (h : backendNode m service endpoint backend = .ok tree) :
    backendNode n service endpoint backend = .ok (tree.without (hiddenAt n)) := by
  obtain ⟨extra, he, h⟩ := bind_ok_iff.mp h
  cases h
  refine bind_ok_iff.mpr ⟨_, extraNodes_without hnm he, ?_⟩
  rw [LabelTree.without, childrenWithout_append, hostsNodes_without]
  rfl

theorem backendNode_kind {level : Int} {endpoint : EndpointConfig} {backend : BackendConfig}
    {tree : LabelTree} (h : backendNode level service endpoint backend = .ok tree) :
    tree.kind = .backend := by
  obtain ⟨extra, -, h⟩ := bind_ok_iff.mp h
  cases h
  rfl

theorem backendNodes_without (hnm : n ≤ m) {endpoint : EndpointConfig} {nodes : List LabelTree}
    (h : backendNodes m service endpoint = .ok nodes) :
    backendNodes n service endpoint = .ok (childrenWithout (hiddenAt n) nodes) := by
  unfold backendNodes at h ⊢
  by_cases hm : m < 2
  · have hn : n < 2 := by omega
    rw [if_pos hm] at h
    rw [if_pos hn]
    cases h
    rfl
  · rw [if_neg hm] at h
    have hkinds := forall_mem_of_mapM (fun _ _ => backendNode_kind) h
    by_cases hn : n < 2
    · rw [if_pos hn, childrenWithout_eq_nil (decide_eq_true hn) hkinds]
    · rw [if_neg hn, childrenWithout_eq_map (decide_eq_false hn) hkinds]
      exact mapM_ok_of_forall (fun _ _ => backendNode_without hnm) h

theorem timeoutNodes_without (level : Int) (endpoint : EndpointConfig) :
    childrenWithout (hiddenAt level)
        (if endpoint.timeout == "" then []
          else [.leaf .attribute ("timeout: " ++ escape endpoint.timeout)]) =
      if endpoint.timeout == "" then []
      else [.leaf .attribute ("timeout: " ++ escape endpoint.timeout)] := by
  split <;> rfl

theorem endpointNode_without (hnm : n ≤ m) {endpoint : EndpointConfig} {tree : LabelTree}
    (h : endpointNode m service endpoint = .ok tree) :
    endpointNode n service endpoint = .ok (tree.without (hiddenAt n)) := by
  obtain ⟨extra, he, h⟩ := bind_ok_iff.mp h
  obtain ⟨backends, hb, h⟩ := bind_ok_iff.mp h
  cases h
  refine bind_ok_iff.mpr ⟨_, extraNodes_without hnm he, ?_⟩
  refine bind_ok_iff.mpr ⟨_, backendNodes_without hnm hb, ?_⟩
  rw [LabelTree.without, childrenWithout_append, childrenWithout_append,
    timeoutNodes_without n endpoint]
  rfl

theorem endpointNode_kind {level : Int} {endpoint : EndpointConfig} {tree : LabelTree}
    (h : endpointNode level service endpoint = .ok tree) : tree.kind = .endpoint := by
  obtain ⟨extra, -, h⟩ := bind_ok_iff.mp h
  obtain ⟨backends, -, h⟩ := bind_ok_iff.mp h
  cases h
  rfl

/-- The tree at a level is the tree of a higher level without what the lower one hides. -/
theorem configTree_without (hnm : n ≤ m) {lead : String} {tree : LabelTree}
    (h : configTree m lead service = .ok tree) :
    configTree n lead service = .ok (tree.without (hiddenAt n)) := by
  obtain ⟨extra, he, h⟩ := bind_ok_iff.mp h
  obtain ⟨endpoints, hs, h⟩ := bind_ok_iff.mp h
  cases h
  have hkinds := forall_mem_of_mapM (fun _ _ => endpointNode_kind) hs
  have hcount : ∀ label, childrenWithout (hiddenAt n) [.node .endpoints label endpoints] =
      [.node .endpoints label (endpoints.map (·.without (hiddenAt n)))] := fun label => by
    rw [← childrenWithout_eq_map rfl hkinds]
    rfl
  refine bind_ok_iff.mpr ⟨_, extraNodes_without hnm he, ?_⟩
  refine bind_ok_iff.mpr ⟨_, mapM_ok_of_forall (fun _ _ => endpointNode_without hnm) hs, ?_⟩
  rw [LabelTree.without, childrenWithout_append, childrenWithout_append, childrenWithout_append,
    attributeNodes_without, hostsNodes_without, hcount]
  rfl

theorem dump_ok_iff {level : Int} {lead text : String} :
    dump screen level lead service = .ok text ↔
      ∃ tree, configTree level lead service = .ok tree ∧ tree.printed screen = .ok text := by
  unfold dump
  rw [bind_ok_iff]
  exact exists_congr fun tree => and_congr mapError_ok_iff mapError_ok_iff

/-- What can be dumped at a level can be dumped at each lower one. -/
theorem exists_dump_of_le (hnm : n ≤ m) {lead : String}
    (h : ∃ text, dump screen m lead service = .ok text) :
    ∃ text, dump screen n lead service = .ok text := by
  obtain ⟨text, h⟩ := h
  obtain ⟨tree, ht, hp⟩ := dump_ok_iff.mp h
  have hlabels := exists_printed_iff.mp ⟨text, hp⟩
  have hlower : ∃ text, (tree.without (hiddenAt n)).printed screen = .ok text :=
    exists_printed_iff.mpr fun label hl => hlabels label (labels_without (hiddenAt n) tree label hl)
  obtain ⟨shown, hs⟩ := hlower
  exact ⟨shown, dump_ok_iff.mpr ⟨_, configTree_without hnm ht, hs⟩⟩

end Preflight.Report

import Preflight.Proofs.Routing.Coexist

/-!
# Paths asked of a tree one after another

A path that a tree refuses still leaves nodes behind, those of the segments that passed before one was
rejected (`RouteTree.kept`). A history asks a fresh tree for one path after another, whatever becomes
of each. Its tree has the nodes of what was kept and the handlers of the paths that were taken, and
nothing else (`History.Explains`), so these decide which path is taken next
(`taken_next_iff_kept`).
-/

namespace Preflight.Routing

namespace Node

variable {η : Type} {node grown child before after : Node η} {text path : String} {handler : η}
  {given : Option η} {rest segments kept : List String}

/-- Whether a segment may be followed from a node, `rest` being what is behind it in the path. -/
def admits (node : Node η) (rest : List String) : Segment → Bool
  | .catchAll name => rest.isEmpty && node.statics.isEmpty && node.param.isNone &&
      node.catchAll.all (·.1 == name)
  | .param name => node.wildcard.all (· == .param name)
  | .static _ => node.catchAll.isNone

/-- The segments of a path that pass below a node before one is rejected. -/
def passed (path : String) : List String → Node η → List String
  | [], _ => []
  | text :: rest, node =>
    match Segment.ofText path text with
    | .ok segment =>
      if node.admits rest segment then text :: passed path rest (node.childOrNew text) else []
    | .error _ => []

theorem admits_catchAll_iff (name : String) :
    node.admits rest (.catchAll name) ↔
      rest = [] ∧ node.statics = [] ∧ node.param = none ∧ ∀ p ∈ node.catchAll, p.1 = name := by
  simp [admits, and_assoc, Option.all_eq_true]

theorem admits_param_iff (ht : node.Tidy) (name : String) :
    node.admits rest (.param name) ↔ node.catchAll = none ∧ ∀ p ∈ node.param, p.1 = name := by
  cases hp : node.param with
  | none => cases hc : node.catchAll <;> simp [admits, wildcard, hp, hc]
  | some p =>
    have hc : node.catchAll = none := by
      by_contra hne
      have := (ht.alone (Option.isSome_iff_ne_none.2 hne)).2
      simp [hp] at this
    simp [admits, wildcard, hp, hc]

theorem admits_static_iff (s : String) :
    node.admits rest (.static s) ↔ node.catchAll = none := by
  simp [admits]

/-- A segment passes exactly if it fits. -/
theorem exists_admits_iff (path : String) (ht : node.Tidy) :
    (∃ segment, Segment.ofText path text = .ok segment ∧ node.admits rest segment) ↔
      node.Fits text rest := by
  by_cases hn : WellNamed text
  · by_cases hc : IsCatchAll text
    · obtain ⟨name, rfl⟩ := isCatchAll_iff.1 hc
      have hparts := parts_catchAll_iff ht name
      simp only [ofText_catchAll path hn, Except.ok.injEq, exists_eq_left', admits_catchAll_iff]
      rw [← hparts]
      exact ⟨fun h => ⟨hn, fun _ => h.1, h.2⟩, fun h => ⟨h.last hc, h.parts⟩⟩
    · by_cases hp : IsParam text
      · obtain ⟨name, rfl⟩ := isParam_iff.1 hp
        have hparts : (∀ t, (node.child? t).isSome → t = ":" ++ name ∨ MayPart t (":" ++ name)) ↔
            node.catchAll = none ∧ ∀ p ∈ node.param, p.1 = name := parts_param_iff name
        simp only [ofText_param path hn, Except.ok.injEq, exists_eq_left', admits_param_iff ht]
        rw [← hparts]
        exact ⟨fun h => ⟨hn, fun h' => absurd h' hc, h⟩, Fits.parts⟩
      · have hparts : (∀ t, (node.child? t).isSome → t = text ∨ MayPart t text) ↔
            node.catchAll = none := parts_static_iff hc hp
        simp only [ofText_static path hn hc hp, Except.ok.injEq, exists_eq_left', admits_static_iff]
        rw [← hparts]
        exact ⟨fun h => ⟨hn, fun h' => absurd h' hc, h⟩, Fits.parts⟩
  · obtain ⟨conflict, he, -⟩ := ofText_error path hn
    simp only [he, reduceCtorEq, false_and, exists_false, false_iff]
    exact fun h => hn h.named

theorem passed_cons_of_fits (path : String) (ht : node.Tidy) (hf : node.Fits text rest) :
    passed path (text :: rest) node = text :: passed path rest (node.childOrNew text) := by
  obtain ⟨segment, hs, ha⟩ := (exists_admits_iff path ht).2 hf
  simp [passed, hs, ha]

theorem passed_cons_of_not_fits (path : String) (ht : node.Tidy) (hf : ¬ node.Fits text rest) :
    passed path (text :: rest) node = [] := by
  rw [passed]
  split
  · next segment hs =>
    rw [if_neg]
    exact fun ha => hf ((exists_admits_iff path ht).1 ⟨segment, hs, ha⟩)
  · rfl

theorem passed_prefix (path : String) (segments : List String) (node : Node η) :
    passed path segments node <+: segments := by
  induction segments generalizing node with
  | nil => exact List.nil_prefix
  | cons text rest ih =>
    rw [passed]
    split
    · split
      · exact List.cons_prefix_cons.2 ⟨rfl, ih _⟩
      · exact List.nil_prefix
    · exact List.nil_prefix

/-- All segments of a path pass exactly if it is taken, or only its handler is there already. -/
theorem passed_eq_iff (path : String) (handler : η) (segments : List String) (h : node.Sound) :
    passed path segments node = segments ↔
      (Node.add path handler segments node).2 = .ok () ∨
        (Node.add path handler segments node).2 = .error (.taken path) := by
  induction segments generalizing node with
  | nil => cases hh : node.handler <;> simp [passed, Node.add, hh]
  | cons t rest ih =>
    by_cases hf : node.Fits t rest
    · obtain ⟨grown, hadd, -⟩ := add_cons path handler h.tidy hf
      rw [hadd, passed_cons_of_fits path h.tidy hf, List.cons_inj_right]
      exact ih (h.childOrNew t)
    · obtain ⟨conflict, hadd, hne⟩ := add_cons_error path handler h.tidy hf
      simpa [hadd, passed_cons_of_not_fits path h.tidy hf] using hne

/-! ### What a path leaves behind -/

/-- A tree after a path went down it: the segments that passed have nodes, the last one may have been
given a handler, and nothing else changed. -/
structure Left (before after : Node η) (kept : List String) (given : Option η) : Prop where
  sound : after.Sound
  present : ∀ s, (after.at? s).isSome ↔ (before.at? s).isSome ∨ s <+: kept
  handled : ∀ s, after.handlerAt? s = if s = kept then given.or (before.handlerAt? s)
    else before.handlerAt? s

theorem Sound.left_nothing (h : node.Sound) : Left node node [] none := by
  refine ⟨h, fun s => ?_, fun s => by simp⟩
  constructor
  · exact .inl
  · rintro (hs | hs)
    · exact hs
    · rw [List.prefix_nil.1 hs]
      rfl

theorem Took.left (h : Took before after segments handler) :
    Left before after segments (some handler) :=
  ⟨h.sound, h.present, fun s => by simp [h.handled]⟩

theorem Grown.left (hg : Grown node grown text child) (h : node.Sound)
    (hl : Left (node.childOrNew text) child kept given) : Left node grown (text :: kept) given := by
  refine ⟨hg.sound h hl.sound, hg.present hl.present, fun s => ?_⟩
  cases s with
  | nil => simp [handlerAt?, hg.handler]
  | cons a s =>
    rw [hg.handlerAt?_cons, Node.handlerAt?_cons node]
    by_cases ha : a = text
    · subst ha
      simpa using hl.handled s
    · simp [ha]

/-- Whatever becomes of a path, its segments that passed have nodes, and a handler was left only if
the path was taken. -/
theorem add_left (path : String) (handler : η) (segments : List String) (h : node.Sound) :
    Left node (Node.add path handler segments node).1 (passed path segments node)
      (if (Node.add path handler segments node).2 = .ok () then some handler else none) := by
  induction segments generalizing node with
  | nil =>
    cases hh : node.handler with
    | none => simpa [Node.add, hh, passed] using (h.took handler).left
    | some old => simpa [Node.add, hh, passed] using h.left_nothing
  | cons t rest ih =>
    by_cases hf : node.Fits t rest
    · obtain ⟨grown, hadd, hg⟩ := add_cons path handler h.tidy hf
      rw [hadd, passed_cons_of_fits path h.tidy hf]
      exact hg.left h (ih (h.childOrNew t))
    · obtain ⟨conflict, hadd, -⟩ := add_cons_error path handler h.tidy hf
      rw [hadd, passed_cons_of_not_fits path h.tidy hf]
      simpa using h.left_nothing

end Node

variable {η : Type} {path : String} {handler : η}

/-! ### Histories -/

/-- The segments of a path that pass before a tree rejects one; none if the path is not rooted. -/
def RouteTree.kept (tree : RouteTree η) (path : String) : List String :=
  match segments? path with
  | none => []
  | some segments => Node.passed path segments tree

/-- What became of a path that a tree was asked to take. -/
structure Asked (η : Type) where
  path : String
  handler : η
  kept : List String
  outcome : Except RouteConflict Unit

def Asked.Taken (a : Asked η) : Prop := a.outcome = .ok ()

/-- A tree that was asked for some paths, one after another, whatever became of each. -/
structure History (η : Type) where
  tree : RouteTree η
  asked : List (Asked η)

namespace History

def start : History η := ⟨Node.empty, []⟩

def ask (h : History η) (path : String) (handler : η) : History η :=
  let (tree, outcome) := h.tree.add path handler
  ⟨tree, h.asked ++ [⟨path, handler, h.tree.kept path, outcome⟩]⟩

def askAll (h : History η) (paths : List (String × η)) : History η :=
  paths.foldl (fun h p => h.ask p.1 p.2) h

/-- The history of a fresh tree that was asked for some paths. -/
def after (paths : List (String × η)) : History η := start.askAll paths

end History

/-- What is kept of a path is the beginning of it; it is the whole of a rooted path exactly if that was
taken, or refused for its handler alone. -/
structure Asked.Kept (a : Asked η) : Prop where
  start : a.kept <+: segments a.path
  whole_iff : a.path.toList.head? = some '/' ∧ a.kept = segments a.path ↔
    a.Taken ∨ a.outcome = .error (.taken a.path)

/-- The asked paths account for the tree: it has the nodes of what was kept of them and the handlers of
those that were taken. -/
structure History.Explains (h : History η) : Prop where
  sound : h.tree.Sound
  kept : ∀ a ∈ h.asked, a.Kept
  present : ∀ s, (h.tree.at? s).isSome ↔ s = [] ∨ ∃ a ∈ h.asked, s <+: a.kept
  handled : ∀ s x, h.tree.handlerAt? s = some x ↔
    ∃ a ∈ h.asked, a.Taken ∧ segments a.path = s ∧ a.handler = x

theorem eq_of_segments_eq {p q : String} (hp : p.toList.head? = some '/')
    (hq : q.toList.head? = some '/') (h : segments p = segments q) : p = q := by
  have hjoin : ∀ path : String, path.toList.head? = some '/' →
      path.toList = '/' :: Text.joinWith '/' ((segments path).map String.toList) := by
    intro path hroot
    obtain ⟨rest, hl⟩ := List.head?_eq_some_iff.1 hroot
    have hs : segments path = (Text.split '/' rest).map String.ofList := by
      simp [segments, segments?, hl]
    have hchars : String.toList ∘ String.ofList = id := funext fun _ => String.toList_ofList
    rw [hs, List.map_map, hchars, List.map_id, Text.joinWith_split, hl]
  apply String.toList_injective
  rw [hjoin p hp, hjoin q hq, h]

namespace History

variable {h : History η}

theorem ask_of_unrooted (hp : path.toList.head? ≠ some '/') (handler : η) :
    h.ask path handler = ⟨h.tree, h.asked ++ [⟨path, handler, [], .error (.notRooted path)⟩]⟩ := by
  simp [ask, RouteTree.add, RouteTree.kept, segments?_eq_none hp]

theorem ask_of_rooted (hp : path.toList.head? = some '/') (handler : η) :
    h.ask path handler = ⟨(Node.add path handler (segments path) h.tree).1,
      h.asked ++ [⟨path, handler, Node.passed path (segments path) h.tree,
        (Node.add path handler (segments path) h.tree).2⟩]⟩ := by
  simp [ask, RouteTree.add, RouteTree.kept, segments?_eq_some hp]

theorem explains_start : (start : History η).Explains where
  sound := Node.sound_empty
  kept a ha := by simp [start] at ha
  present s := by cases s <;> simp [start]
  handled s x := by cases s <;> simp [start, Node.handlerAt?, Node.empty, Node.child?]

namespace Explains

variable (he : h.Explains)

include he

theorem rooted {a : Asked η} (ha : a ∈ h.asked) (ht : a.Taken) : a.path.toList.head? = some '/' :=
  ((he.kept a ha).whole_iff.2 (.inl ht)).1

/-- What passes decides: a path is taken if it is well formed, was not taken before, and parts well from
what was kept of each path before. -/
theorem add_ok_iff (path : String) (handler : η) :
    (h.tree.add path handler).2 = .ok () ↔
      WellFormed path ∧ ∀ a ∈ h.asked, (a.Taken → a.path ≠ path) ∧ PartWell a.kept (segments path) := by
  by_cases hp : path.toList.head? = some '/'
  · rw [RouteTree.add_of_rooted _ _ hp, Node.add_ok_iff he.sound, Option.eq_none_iff_forall_not_mem]
    constructor
    · rintro ⟨ho, hnew, hparts⟩
      refine ⟨⟨hp, ho⟩, fun a ha => ⟨?_, ?_⟩⟩
      · rintro ht rfl
        exact hnew a.handler ((he.handled _ _).2 ⟨a, ha, ht, rfl, rfl⟩)
      · exact hparts a.kept ((he.present _).2 (.inr ⟨a, ha, List.prefix_refl _⟩))
    · rintro ⟨hw, hall⟩
      refine ⟨hw.2, fun x hx => ?_, fun s hs => ?_⟩
      · obtain ⟨a, ha, ht, hseg, -⟩ := (he.handled _ _).1 hx
        exact (hall a ha).1 ht (eq_of_segments_eq (he.rooted ha ht) hp hseg)
      · rcases (he.present s).1 hs with rfl | ⟨a, ha, hpre⟩
        · simp
        · exact (hall a ha).2.of_start hpre
  · rw [RouteTree.add, segments?_eq_none hp]
    exact ⟨fun heq => by simp at heq, fun hw => absurd hw.1.1 hp⟩

theorem ask (path : String) (handler : η) : (h.ask path handler).Explains := by
  by_cases hp : path.toList.head? = some '/'
  · have hok := he.add_ok_iff path handler
    rw [RouteTree.add_of_rooted _ _ hp] at hok
    have hleft := Node.add_left path handler (segments path) he.sound
    have hwhole := Node.passed_eq_iff path handler (segments path) he.sound
    rw [ask_of_rooted hp]
    refine ⟨hleft.sound, ?_, fun s => ?_, fun s x => ?_⟩
    · intro a ha
      rcases List.mem_append.1 ha with ha | ha
      · exact he.kept a ha
      · rw [List.mem_singleton.1 ha]
        exact ⟨Node.passed_prefix _ _ _, (and_iff_right hp).trans hwhole⟩
    · rw [hleft.present, he.present]
      simp [or_and_right, exists_or, or_assoc]
    · rw [hleft.handled]
      by_cases hadd : (Node.add path handler (segments path) h.tree).2 = .ok ()
      · rw [if_pos hadd, hwhole.2 (.inl hadd)]
        by_cases hs : s = segments path
        · -- no path with these segments was taken before
          have hnew : ∀ a ∈ h.asked, a.Taken → segments a.path ≠ s := fun a ha ht hseg =>
            ((hok.1 hadd).2 a ha).1 ht (eq_of_segments_eq (he.rooted ha ht) hp (hseg.trans hs))
          have hold : ¬ ∃ a ∈ h.asked, a.Taken ∧ segments a.path = s ∧ a.handler = x := by
            rintro ⟨a, ha, ht, hseg, -⟩
            exact hnew a ha ht hseg
          simp only [List.mem_append, List.mem_singleton, or_and_right, exists_or, hold, false_or,
            exists_eq_left]
          simp [hs, hadd, Asked.Taken]
        · rw [if_neg hs, he.handled]
          simp [or_and_right, exists_or, Ne.symm hs]
      · rw [if_neg hadd, Option.none_or, ite_self, he.handled]
        simp [or_and_right, exists_or, Asked.Taken, hadd]
  · rw [ask_of_unrooted hp]
    refine ⟨he.sound, ?_, fun s => ?_, fun s x => ?_⟩
    · intro a ha
      rcases List.mem_append.1 ha with ha | ha
      · exact he.kept a ha
      · rw [List.mem_singleton.1 ha]
        exact ⟨List.nil_prefix, by simp [hp, Asked.Taken]⟩
    · rw [he.present]
      by_cases hs : s = [] <;> simp [hs, or_and_right, exists_or]
    · rw [he.handled]
      simp [or_and_right, exists_or, Asked.Taken]

theorem askAll (paths : List (String × η)) : (h.askAll paths).Explains := by
  induction paths generalizing h with
  | nil => exact he
  | cons p paths ih => exact ih (he.ask p.1 p.2)

end Explains

theorem asked_ask (h : History η) (path : String) (handler : η) :
    ∀ a ∈ h.asked, a ∈ (h.ask path handler).asked :=
  fun _ ha => List.mem_append_left _ ha

theorem asked_askAll (h : History η) (paths : List (String × η)) :
    ∀ a ∈ h.asked, a ∈ (h.askAll paths).asked := by
  induction paths generalizing h with
  | nil => exact fun _ ha => ha
  | cons p paths ih => exact fun a ha => ih (h.ask p.1 p.2) a (h.asked_ask p.1 p.2 a ha)

end History

/-- After any history of a fresh tree, a path is taken exactly if it is well formed, was not taken
before and parts well from what was kept of each path asked for before. What was asked for accounts for
all nodes and handlers of the tree, refused paths for nodes only; and a path that a tree refuses is
refused for ever after. -/
theorem taken_next_iff_kept (paths : List (String × η)) (path : String) (handler : η) :
    (((History.after paths).tree.add path handler).2 = .ok () ↔
      WellFormed path ∧ ∀ a ∈ (History.after paths).asked,
        (a.Taken → a.path ≠ path) ∧ PartWell a.kept (segments path)) ∧
    (History.after paths).Explains ∧
    (((History.after paths).tree.add path handler).2 ≠ .ok () →
      ∀ later other, (((History.after paths).askAll later).tree.add path other).2 ≠ .ok ()) := by
  have he : (History.after paths).Explains := History.explains_start.askAll paths
  refine ⟨he.add_ok_iff path handler, he, fun hno later other hok => hno ?_⟩
  obtain ⟨hw, hall⟩ := ((he.askAll later).add_ok_iff path other).1 hok
  exact (he.add_ok_iff path handler).2
    ⟨hw, fun a ha => hall a (History.asked_askAll _ later a ha)⟩

/-- A refused path keeps its first segment, which is in the way of a catch-all. -/
example : (History.after [("/a/:b:c", ())]).asked.map (·.kept) = [["a"]] ∧
    ((History.after [("/a/:b:c", ())]).tree.add "/*x" ()).2 ≠ .ok () := by
  constructor
  · decide +kernel
  · decide +kernel

end Preflight.Routing

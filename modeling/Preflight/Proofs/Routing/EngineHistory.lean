import Mathlib.Data.List.Induction
import Mathlib.Data.List.Nodup
import Preflight.Proofs.Routing.TreeHistory

/-!
# Calls made of an engine one after another

An engine keeps its routes twice, in a list and in one tree for each method, and a call for any method
may fail when some of the trees have taken its path already. A history makes calls of a fresh engine,
whatever becomes of each (`EngineHistory.after`). The tree of a method is then the one that was asked
for the paths of the calls that touched it, and the list has the paths that each tree took, in order
(`EngineHistory.Agrees`). Hence what becomes of a call depends on the earlier calls that touched the
same methods and on no others (`routes_agree_with_trees`).
-/

namespace Preflight.Routing

open Gateway

variable {η : Type}

theorem isOk_iff {ε : Type} {x : Except ε Unit} : x.isOk = true ↔ x = .ok () := by
  cases x <;> simp [Except.isOk, Except.toBool]

/-- A call of an engine. -/
inductive Call (η : Type)
  | handle (method path : String) (handler : η)
  | any (path : String) (handler : η)

namespace Call

def path : Call η → String
  | .handle _ path _ | .any path _ => path

def handler : Call η → η
  | .handle _ _ handler | .any _ handler => handler

def methods : Call η → List String
  | .handle method _ _ => [method]
  | .any _ _ => anyMethods

theorem nodup_methods (c : Call η) : c.methods.Nodup := by
  cases c with
  | handle method => exact List.nodup_singleton method
  | any => exact (by decide : anyMethods.Nodup)

end Call

namespace Engine

def perform (engine : Engine η) : Call η → Engine η × Except RouteConflict Unit
  | .handle method path handler => engine.handle method path handler
  | .any path handler => engine.any path handler

def takes (engine : Engine η) (path : String) (handler : η) (method : String) : Bool :=
  ((engine.tree method).add path handler).2.isOk

/-- The methods up to and including the first one whose tree refuses a path. -/
def reached (engine : Engine η) (path : String) (handler : η) : List String → List String
  | [] => []
  | method :: methods =>
    method :: if engine.takes path handler method then engine.reached path handler methods else []

variable {engine next : Engine η} {method path m : String} {handler : η} {methods : List String}

theorem takes_iff : engine.takes path handler m ↔ ((engine.tree m).add path handler).2 = .ok () :=
  isOk_iff

theorem mem_of_mem_reached (h : m ∈ engine.reached path handler methods) : m ∈ methods := by
  induction methods with
  | nil => exact h
  | cons method methods ih =>
    rw [reached, List.mem_cons] at h
    rcases h with rfl | h
    · exact List.mem_cons_self
    · split at h
      · exact List.mem_cons_of_mem _ (ih h)
      · cases h

/-- A path is registered for the methods that were reached and whose trees take it. -/
theorem mem_takeWhile_takes :
    m ∈ methods.takeWhile (engine.takes path handler) ↔
      m ∈ engine.reached path handler methods ∧ engine.takes path handler m := by
  induction methods with
  | nil => simp [reached]
  | cons method methods ih =>
    cases ht : engine.takes path handler method with
    | true =>
      simp only [reached, ht, if_true, List.takeWhile_cons_of_pos, List.mem_cons, ih, or_and_right]
      exact or_congr_left (iff_self_and.2 fun h => h ▸ ht)
    | false =>
      rw [List.takeWhile_cons_of_neg (by simp [ht]), reached, ht]
      simp only [List.not_mem_nil, false_iff, not_and, Bool.not_eq_true]
      intro hm
      rw [List.mem_singleton.1 hm, ht]

/-- What becomes of a path that is registered for some methods: the trees that are reached are asked for
it, and it becomes a route of the methods before the one that refuses it. `engine` says what the
trees of these methods were before, `next` what the engine has come to on the way. -/
structure Registered (engine next : Engine η) (path : String) (handler : η) (methods : List String)
    (r : Engine η × Except RouteConflict Unit) : Prop where
  tree : ∀ m, r.1.tree m = if m ∈ engine.reached path handler methods then
    ((engine.tree m).add path handler).1 else next.tree m
  routes : r.1.routes = next.routes ++
    (methods.takeWhile (engine.takes path handler)).map (⟨·, path⟩)
  outcome : r.2 = match methods.find? fun m => !engine.takes path handler m with
    | some m => ((engine.tree m).add path handler).2
    | none => .ok ()

theorem handleAll_registered (path : String) (handler : η) (hnd : methods.Nodup)
    (hsame : ∀ m ∈ methods, next.tree m = engine.tree m) :
    engine.Registered next path handler methods (handleAll path handler methods next) := by
  induction methods generalizing next with
  | nil => exact ⟨fun m => by simp [handleAll, reached], by simp [handleAll], rfl⟩
  | cons method methods ih =>
    obtain ⟨hm, hms⟩ := List.forall_mem_cons.1 hsame
    obtain ⟨hnot, hnd⟩ := List.nodup_cons.1 hnd
    cases ht : engine.takes path handler method with
    | true =>
      have hok := takes_iff.1 ht
      rw [← hm] at hok
      have hrests : ∀ m ∈ methods, (Engine.mk (Table.put next.trees method
          ((next.tree method).add path handler).1) (next.routes ++ [⟨method, path⟩])).tree m =
          engine.tree m := fun m hmem => by
        rw [tree_put, if_neg (ne_of_mem_of_not_mem hmem hnot), hms m hmem]
      have hrest := ih hnd hrests
      rw [handleAll, handle_of_ok hok]
      refine ⟨fun m => ?_, ?_, ?_⟩
      · rw [hrest.tree, tree_put, reached, ht, if_pos rfl, hm]
        by_cases hmm : m = method
        · subst hmm
          have : m ∉ engine.reached path handler methods := fun h => hnot (mem_of_mem_reached h)
          simp [this]
        · simp [hmm]
      · rw [hrest.routes, List.takeWhile_cons_of_pos ht]
        simp
      · rw [hrest.outcome, List.find?_cons, ht]
        rfl
    | false =>
      cases hadd : ((next.tree method).add path handler).2 with
      | ok u => exact absurd (takes_iff.2 (hm ▸ hadd)) (by simp [ht])
      | error conflict =>
        rw [handleAll, handle_of_error hadd]
        refine ⟨fun m => ?_, ?_, ?_⟩
        · rw [tree_put, reached, ht, hm]
          by_cases hmm : m = method <;> simp [hmm]
        · rw [List.takeWhile_cons_of_neg (by simp [ht])]
          simp
        · rw [List.find?_cons, ht]
          exact (hm ▸ hadd).symm

/-- The methods whose trees a call touches: those it is for, up to and including the first one whose tree
refuses the path. -/
def touched (engine : Engine η) (c : Call η) : List String :=
  engine.reached c.path c.handler c.methods

/-- The methods that get a route from a call: those before the first one whose tree refuses the path. -/
def served (engine : Engine η) (c : Call η) : List String :=
  c.methods.takeWhile (engine.takes c.path c.handler)

theorem perform_registered (engine : Engine η) (c : Call η) :
    engine.Registered engine c.path c.handler c.methods (engine.perform c) := by
  have h := handleAll_registered c.path c.handler c.nodup_methods (fun m _ => (rfl : engine.tree m = _))
  cases c with
  | handle method path handler =>
    have he : handleAll path handler [method] engine = engine.handle method path handler := by
      rw [handleAll]
      rcases engine.handle method path handler with ⟨next, u | conflict⟩ <;> rfl
    rw [show engine.perform (.handle method path handler) = _ from he.symm]
    exact h
  | any path handler => exact h

theorem perform_tree (engine : Engine η) (c : Call η) (m : String) :
    (engine.perform c).1.tree m =
      if m ∈ engine.touched c then ((engine.tree m).add c.path c.handler).1 else engine.tree m :=
  (engine.perform_registered c).tree m

theorem perform_routes (engine : Engine η) (c : Call η) :
    (engine.perform c).1.routes = engine.routes ++ (engine.served c).map (⟨·, c.path⟩) :=
  (engine.perform_registered c).routes

theorem perform_outcome (engine : Engine η) (c : Call η) :
    (engine.perform c).2 = match c.methods.find? fun m => !engine.takes c.path c.handler m with
      | some m => ((engine.tree m).add c.path c.handler).2
      | none => .ok () :=
  (engine.perform_registered c).outcome

theorem outcome_congr {other : Engine η} {c : Call η}
    (h : ∀ m ∈ engine.touched c, engine.tree m = other.tree m) :
    (engine.perform c).2 = (other.perform c).2 := by
  rw [perform_outcome, perform_outcome]
  rw [touched] at h
  generalize c.methods = methods at h ⊢
  induction methods with
  | nil => rfl
  | cons method methods ih =>
    rw [reached, List.forall_mem_cons] at h
    have hsame : engine.takes c.path c.handler method = other.takes c.path c.handler method := by
      rw [takes, takes, h.1]
    cases ht : engine.takes c.path c.handler method with
    | true =>
      rw [ht] at hsame h
      simpa [List.find?_cons, ht, ← hsame] using ih h.2
    | false =>
      rw [ht] at hsame
      simp [ht, ← hsame, h.1]

/-- A call that fails was refused by the tree of the first method that gets no route from it. -/
theorem served_of_error {c : Call η} {conflict : RouteConflict}
    (h : (engine.perform c).2 = .error conflict) :
    ∃ m later, c.methods = engine.served c ++ m :: later ∧
      ((engine.tree m).add c.path c.handler).2 = .error conflict := by
  rw [perform_outcome] at h
  rw [served]
  generalize c.methods = methods at h ⊢
  induction methods with
  | nil => cases h
  | cons method methods ih =>
    cases ht : engine.takes c.path c.handler method with
    | true =>
      simp only [List.find?_cons, ht, Bool.not_true] at h
      obtain ⟨m, later, hms, hm⟩ := ih h
      exact ⟨m, later, by rw [List.takeWhile_cons_of_pos ht, List.cons_append, ← hms], hm⟩
    | false =>
      simp only [List.find?_cons, ht, Bool.not_false] at h
      exact ⟨method, methods, by rw [List.takeWhile_cons_of_neg (by simp [ht]), List.nil_append], h⟩

theorem nodup_served (engine : Engine η) (c : Call η) : (engine.served c).Nodup :=
  c.nodup_methods.sublist (List.takeWhile_sublist _)

theorem mem_served {engine : Engine η} {c : Call η} {m : String} :
    m ∈ engine.served c ↔ m ∈ engine.touched c ∧ engine.takes c.path c.handler m :=
  mem_takeWhile_takes

end Engine

/-! ### What one tree was asked for -/

namespace History

def taken (h : History η) : List String := (h.asked.filter (·.outcome.isOk)).map (·.path)

theorem taken_ask (h : History η) (path : String) (handler : η) :
    (h.ask path handler).taken =
      h.taken ++ if (h.tree.add path handler).2.isOk then [path] else [] := by
  unfold taken ask
  rw [List.filter_append, List.map_append]
  cases hok : (h.tree.add path handler).2.isOk <;> simp [hok]

theorem after_append (paths : List (String × η)) (path : String) (handler : η) :
    after (paths ++ [(path, handler)]) = (after paths).ask path handler := by
  rw [after, askAll, List.foldl_append]
  rfl

theorem mem_taken {h : History η} {path : String} :
    path ∈ h.taken ↔ ∃ a ∈ h.asked, a.Taken ∧ a.path = path := by
  simp [taken, Asked.Taken, isOk_iff, and_assoc]

theorem nodup_taken (paths : List (String × η)) : (after paths).taken.Nodup := by
  induction paths using List.reverseRecOn with
  | nil => exact List.nodup_nil
  | append_singleton paths p ih =>
    rw [after_append, taken_ask]
    split
    · next hok =>
      have he : (after paths).Explains := explains_start.askAll paths
      have hnew := ((he.add_ok_iff p.1 p.2).1 (isOk_iff.1 hok)).2
      rw [← List.concat_eq_append, List.nodup_concat]
      refine ⟨fun hmem => ?_, ih⟩
      obtain ⟨a, ha, ht, heq⟩ := mem_taken.1 hmem
      exact (hnew a ha).1 ht heq
    · simpa using ih

theorem mem_taken_iff (paths : List (String × η)) (path : String) :
    path ∈ (after paths).taken ↔ path.toList.head? = some '/' ∧
      ((after paths).tree.handlerAt? (segments path)).isSome := by
  have he : (after paths).Explains := explains_start.askAll paths
  rw [mem_taken, Option.isSome_iff_exists]
  constructor
  · rintro ⟨a, ha, ht, rfl⟩
    exact ⟨he.rooted ha ht, a.handler, (he.handled _ _).2 ⟨a, ha, ht, rfl, rfl⟩⟩
  · rintro ⟨hroot, x, hx⟩
    obtain ⟨a, ha, ht, hs, -⟩ := (he.handled _ _).1 hx
    exact ⟨a, ha, ht, eq_of_segments_eq (he.rooted ha ht) hroot hs⟩

theorem exists_taken (paths : List (String × η)) {s : List String}
    (hs : ((after paths).tree.handlerAt? s).isSome) : ∃ path ∈ (after paths).taken, segments path = s := by
  have he : (after paths).Explains := explains_start.askAll paths
  obtain ⟨x, hx⟩ := Option.isSome_iff_exists.1 hs
  obtain ⟨a, ha, ht, hseg, -⟩ := (he.handled _ _).1 hx
  exact ⟨a.path, mem_taken.2 ⟨a, ha, ht, rfl⟩, hseg⟩

end History

/-! ### Histories of an engine -/

/-- A call that was made, with the methods whose trees it touched. -/
structure Called (η : Type) where
  call : Call η
  touched : List String

/-- An engine with the calls that were made of it so far, whatever became of each. -/
structure EngineHistory (η : Type) where
  engine : Engine η
  called : List (Called η)

def pathsUnder (method : String) (routes : List Route) : List String :=
  (routes.filter (·.method = method)).map (·.path)

theorem pathsUnder_append (m : String) (routes more : List Route) :
    pathsUnder m (routes ++ more) = pathsUnder m routes ++ pathsUnder m more := by
  simp [pathsUnder]

theorem mem_pathsUnder {m path : String} {routes : List Route} :
    path ∈ pathsUnder m routes ↔ ⟨m, path⟩ ∈ routes := by
  simp only [pathsUnder, List.mem_map, List.mem_filter, decide_eq_true_eq]
  constructor
  · rintro ⟨r, ⟨hr, rfl⟩, rfl⟩
    exact hr
  · exact fun h => ⟨⟨m, path⟩, ⟨h, rfl⟩, rfl⟩

theorem pathsUnder_map {methods : List String} (hnd : methods.Nodup) (m path : String) :
    pathsUnder m (methods.map (⟨·, path⟩)) = if m ∈ methods then [path] else [] := by
  induction methods with
  | nil => rfl
  | cons method methods ih =>
    obtain ⟨hnot, hnd⟩ := List.nodup_cons.1 hnd
    have hrest := ih hnd
    simp only [pathsUnder, List.map_cons, List.filter_cons] at hrest ⊢
    by_cases hm : method = m
    · subst hm
      simpa [hnot] using hrest
    · simpa [hm, Ne.symm hm] using hrest

theorem nodup_of_pathsUnder {routes : List Route} (h : ∀ m, (pathsUnder m routes).Nodup) :
    routes.Nodup := by
  induction routes with
  | nil => exact List.nodup_nil
  | cons r routes ih =>
    have hcons : ∀ m, pathsUnder m (r :: routes) = pathsUnder m [r] ++ pathsUnder m routes :=
      fun m => pathsUnder_append m [r] routes
    refine List.nodup_cons.2 ⟨fun hr => ?_, ih fun m => ?_⟩
    · have hnd := hcons r.method ▸ h r.method
      have hself : pathsUnder r.method [r] = [r.path] := by simp [pathsUnder]
      rw [hself] at hnd
      exact (List.nodup_cons.1 hnd).1 (mem_pathsUnder.2 hr)
    · exact (List.nodup_append.1 (hcons m ▸ h m)).2.1

namespace EngineHistory

def start : EngineHistory η := ⟨Engine.empty, []⟩

def call (h : EngineHistory η) (c : Call η) : EngineHistory η :=
  ⟨(h.engine.perform c).1, h.called ++ [⟨c, h.engine.touched c⟩]⟩

/-- The history of a fresh engine of which some calls were made. -/
def after (calls : List (Call η)) : EngineHistory η := calls.foldl call start

/-- The paths, with their handlers, of the calls that touched a method. -/
def askedOf (h : EngineHistory η) (m : String) : List (String × η) :=
  (h.called.filter (m ∈ ·.touched)).map fun c => (c.call.path, c.call.handler)

/-- The list of routes and the trees of an engine agree. -/
structure Agrees (h : EngineHistory η) : Prop where
  tree : ∀ m, h.engine.tree m = (History.after (h.askedOf m)).tree
  inOrder : ∀ m, pathsUnder m h.engine.routes = (History.after (h.askedOf m)).taken

variable {h : EngineHistory η}

theorem askedOf_call (h : EngineHistory η) (c : Call η) (m : String) :
    (h.call c).askedOf m =
      h.askedOf m ++ if m ∈ h.engine.touched c then [(c.path, c.handler)] else [] := by
  unfold askedOf call
  rw [List.filter_append, List.map_append]
  by_cases hm : m ∈ h.engine.touched c <;> simp [hm]

theorem agrees_start : (start : EngineHistory η).Agrees :=
  ⟨fun _ => rfl, fun _ => rfl⟩

theorem Agrees.call (ha : h.Agrees) (c : Call η) : (h.call c).Agrees := by
  refine ⟨fun m => ?_, fun m => ?_⟩
  · show (h.engine.perform c).1.tree m = _
    rw [Engine.perform_tree, askedOf_call]
    by_cases hm : m ∈ h.engine.touched c
    · rw [if_pos hm, if_pos hm, History.after_append, ha.tree m]
      rfl
    · rw [if_neg hm, if_neg hm, List.append_nil, ha.tree m]
  · show pathsUnder m (h.engine.perform c).1.routes = _
    rw [Engine.perform_routes, pathsUnder_append, pathsUnder_map (h.engine.nodup_served c),
      ha.inOrder m, askedOf_call]
    by_cases hm : m ∈ h.engine.touched c
    · rw [if_pos hm, History.after_append, History.taken_ask, ← ha.tree m]
      simp only [Engine.mem_served, hm, true_and]
      rfl
    · have hs : m ∉ h.engine.served c := fun hs => hm (Engine.mem_served.1 hs).1
      rw [if_neg hs, if_neg hm, List.append_nil, List.append_nil]

/-- The routes and the trees agree after any calls, failing ones included. -/
theorem agrees_after (calls : List (Call η)) : (after calls).Agrees := by
  induction calls using List.reverseRecOn with
  | nil => exact agrees_start
  | append_singleton calls c ih =>
    rw [after, List.foldl_append]
    exact ih.call c

end EngineHistory

open EngineHistory in
/-- After any calls of a fresh engine, failing ones included, no route is there twice, and the routes of a
method are the paths that its tree took, in order; these are the paths whose nodes have a handler, and no
other node has one. What becomes of a call depends on the earlier calls that touched the methods it
touches. A call for one method that fails leaves the routes as they are, one for any method adds the
routes of the methods before the first one whose tree refuses the path. -/
theorem routes_agree_with_trees (calls : List (Call η)) :
    (after calls).engine.routes.Nodup ∧ (after calls).Agrees ∧
    (∀ m path, ⟨m, path⟩ ∈ (after calls).engine.routes ↔ path.toList.head? = some '/' ∧
      (((after calls).engine.tree m).handlerAt? (segments path)).isSome) ∧
    (∀ m s, (((after calls).engine.tree m).handlerAt? s).isSome →
      ∃ path, ⟨m, path⟩ ∈ (after calls).engine.routes ∧ segments path = s) ∧
    (∀ others c, (∀ m ∈ (after calls).engine.touched c, (after calls).askedOf m = (after others).askedOf m) →
      ((after calls).engine.perform c).2 = ((after others).engine.perform c).2) ∧
    (∀ method path handler conflict,
      ((after calls).engine.handle method path handler).2 = .error conflict →
      ((after calls).engine.handle method path handler).1.routes = (after calls).engine.routes) ∧
    ∀ path handler conflict, ((after calls).engine.any path handler).2 = .error conflict →
      ∃ before m later, anyMethods = before ++ m :: later ∧
        (∀ method ∈ before, (((after calls).engine.tree method).add path handler).2 = .ok ()) ∧
        (((after calls).engine.tree m).add path handler).2 = .error conflict ∧
        ((after calls).engine.any path handler).1.routes =
          (after calls).engine.routes ++ before.map (⟨·, path⟩) := by
  have ha := agrees_after calls
  have hmem : ∀ m path, ⟨m, path⟩ ∈ (after calls).engine.routes ↔
      path ∈ (History.after ((after calls).askedOf m)).taken := fun m path => by
    rw [← ha.inOrder, mem_pathsUnder]
  refine ⟨nodup_of_pathsUnder fun m => ha.inOrder m ▸ History.nodup_taken _, ha, fun m path => ?_,
    fun m s hs => ?_, fun others c hsame => ?_, fun method path handler conflict he => ?_,
    fun path handler conflict he => ?_⟩
  · rw [hmem, ha.tree, History.mem_taken_iff]
  · rw [ha.tree] at hs
    obtain ⟨path, hp, hseg⟩ := History.exists_taken _ hs
    exact ⟨path, (hmem m path).2 hp, hseg⟩
  · refine Engine.outcome_congr fun m hm => ?_
    rw [ha.tree, (agrees_after others).tree, hsame m hm]
  · obtain ⟨m, later, hms, -⟩ := Engine.served_of_error (c := .handle method path handler) he
    have hnone : (after calls).engine.served (.handle method path handler) = [] := by
      cases hs : (after calls).engine.served (.handle method path handler) with
      | nil => rfl
      | cons first rest => simp [hs, Call.methods] at hms
    have hroutes := (after calls).engine.perform_routes (.handle method path handler)
    rw [hnone, List.map_nil, List.append_nil] at hroutes
    exact hroutes
  · obtain ⟨m, later, hms, hm⟩ := Engine.served_of_error (c := .any path handler) he
    refine ⟨_, m, later, hms, fun method hmethod => ?_, hm, ?_⟩
    · exact Engine.takes_iff.1 (Engine.mem_served.1 hmethod).2
    · exact (after calls).engine.perform_routes (.any path handler)

/-- A path that one method has already is registered for the methods before that one. -/
example : (((Engine.empty.handle "PUT" "/a" ()).1.any "/a" ()).1.routes.map (·.method)) =
    ["PUT", "GET", "POST"] := by
  decide +kernel

end Preflight.Routing

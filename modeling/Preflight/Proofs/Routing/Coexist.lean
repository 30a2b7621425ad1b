import Preflight.Proofs.Routing.TreeRoutes
import Preflight.Routing.Engine

/-!
# Routes that live together

`Coexist routes`: every path is well formed and any two routes of one method are compatible. An
engine that took some routes takes one more exactly if they all coexist (`handle_registers`);
`handleAll_registers` says the same of one path for many methods. The relation does not depend on
the order of the routes (`Coexist.perm`).
-/

namespace Preflight.Routing

def segments (path : String) : List String := (segments? path).getD []

/-- A path begins with a slash, each of its segments is well named, and only the last one may be a
catch-all. -/
def WellFormed (path : String) : Prop :=
  path.toList.head? = some '/' ∧ Node.InOrder (segments path)

/-- Two paths differ in some segment, and where both first do they may part. -/
def Compatible (p q : String) : Prop :=
  segments p ≠ segments q ∧ PartWell (segments p) (segments q)

/-- Well-formed routes of which no two of one method are in each other's way. -/
structure Coexist (routes : List Route) : Prop where
  wellFormed : ∀ r ∈ routes, WellFormed r.path
  compatible : routes.Pairwise fun r s => r.method = s.method → Compatible r.path s.path

instance (path : String) : Decidable (WellFormed path) := inferInstanceAs (Decidable (_ ∧ _))

instance (p q : String) : Decidable (Compatible p q) := inferInstanceAs (Decidable (_ ∧ _))

instance (routes : List Route) : Decidable (Coexist routes) :=
  decidable_of_iff ((∀ r ∈ routes, WellFormed r.path) ∧
      routes.Pairwise fun r s => r.method = s.method → Compatible r.path s.path)
    ⟨fun h => ⟨h.1, h.2⟩, fun h => ⟨h.1, h.2⟩⟩

theorem Compatible.symm {p q : String} (h : Compatible p q) : Compatible q p := ⟨h.1.symm, h.2.symm⟩

theorem segments?_eq_some {path : String} (h : path.toList.head? = some '/') :
    segments? path = some (segments path) := by
  cases hl : path.toList with
  | nil => simp [hl] at h
  | cons c rest =>
    simp only [hl, List.head?_cons, Option.some.injEq] at h
    subst h
    simp [segments, segments?, hl]

theorem segments?_eq_none {path : String} (h : path.toList.head? ≠ some '/') : segments? path = none := by
  unfold segments?
  split
  · next rest hl => simp [hl] at h
  · rfl

theorem RouteTree.add_of_rooted {η : Type} (tree : RouteTree η) (handler : η) {path : String}
    (h : path.toList.head? = some '/') :
    tree.add path handler = Node.add path handler (segments path) tree := by
  rw [RouteTree.add, segments?_eq_some h]

namespace Coexist

variable {routes more : List Route} {r : Route}

theorem nil : Coexist [] := ⟨by simp, .nil⟩

theorem perm (h : routes.Perm more) : Coexist routes ↔ Coexist more :=
  ⟨fun hc => ⟨fun r hr => hc.wellFormed r (h.mem_iff.2 hr),
      (h.pairwise_iff fun hrs hm => (hrs hm.symm).symm).1 hc.compatible⟩,
    fun hc => ⟨fun r hr => hc.wellFormed r (h.mem_iff.1 hr),
      (h.pairwise_iff fun hrs hm => (hrs hm.symm).symm).2 hc.compatible⟩⟩

theorem of_append (h : Coexist (routes ++ more)) : Coexist routes :=
  ⟨fun r hr => h.wellFormed r (List.mem_append_left _ hr), (List.pairwise_append.1 h.compatible).1⟩

theorem sublist (h : routes.Sublist more) (hc : Coexist more) : Coexist routes :=
  ⟨fun r hr => hc.wellFormed r (h.subset hr), hc.compatible.sublist h⟩

theorem append_singleton_iff (h : Coexist routes) :
    Coexist (routes ++ [r]) ↔
      WellFormed r.path ∧ ∀ s ∈ routes, s.method = r.method → Compatible s.path r.path := by
  constructor
  · intro hc
    exact ⟨hc.wellFormed r (by simp),
      fun s hs => (List.pairwise_append.1 hc.compatible).2.2 s hs r (List.mem_singleton_self r)⟩
  · rintro ⟨hw, hcomp⟩
    refine ⟨fun s hs => ?_, List.pairwise_append.2 ⟨h.compatible, List.pairwise_singleton _ _, ?_⟩⟩
    · rcases List.mem_append.1 hs with hs | hs
      · exact h.wellFormed s hs
      · rwa [List.mem_singleton.1 hs]
    · intro s hs t ht
      rw [List.mem_singleton.1 ht]
      exact hcomp s hs

end Coexist

namespace Engine

variable {η : Type} {engine : Engine η} {method path : String} {handler : η}

def pathsOf (method : String) (routes : List Route) : List (List String) :=
  (routes.filter (·.method = method)).map (segments ·.path)

/-- An engine's routes coexist, and the tree of each method is the one that its routes make. -/
structure Sound (engine : Engine η) : Prop where
  coexist : Coexist engine.routes
  trees : ∀ method, (engine.tree method).Holds (pathsOf method engine.routes)

theorem mem_pathsOf {routes : List Route} {d : List String} :
    d ∈ pathsOf method routes ↔ ∃ r ∈ routes, r.method = method ∧ segments r.path = d := by
  simp [pathsOf, and_assoc]

theorem pathsOf_append_self (routes : List Route) :
    pathsOf method (routes ++ [⟨method, path⟩]) = pathsOf method routes ++ [segments path] := by
  simp [pathsOf]

theorem pathsOf_append_ne {m : String} (hne : method ≠ m) (routes : List Route) :
    pathsOf m (routes ++ [⟨method, path⟩]) = pathsOf m routes := by
  simp [pathsOf, hne]

theorem sound_empty : (empty : Engine η).Sound := ⟨Coexist.nil, fun _ => Node.holds_empty⟩

/-- A tree of a sound engine takes a path that coexists with the routes of the engine. -/
theorem Sound.add_ok_iff (h : engine.Sound) (method path : String) (handler : η) :
    ((engine.tree method).add path handler).2 = .ok () ↔ Coexist (engine.routes ++ [⟨method, path⟩]) := by
  rw [h.coexist.append_singleton_iff]
  by_cases hroot : path.toList.head? = some '/'
  · rw [RouteTree.add_of_rooted _ _ hroot, (h.trees method).add_ok_iff]
    simp only [WellFormed, hroot, true_and, mem_pathsOf, Compatible]
    refine and_congr_right fun _ => ⟨fun hd s hs hm => hd _ ⟨s, hs, hm, rfl⟩, ?_⟩
    rintro hd d ⟨s, hs, hm, rfl⟩
    exact hd s hs hm
  · rw [RouteTree.add, segments?_eq_none hroot]
    exact ⟨fun heq => by simp at heq, fun hw => absurd hw.1.1 hroot⟩

theorem handle_of_ok (hok : ((engine.tree method).add path handler).2 = .ok ()) :
    engine.handle method path handler =
      (⟨Table.put engine.trees method ((engine.tree method).add path handler).1,
        engine.routes ++ [⟨method, path⟩]⟩, .ok ()) := by
  simp [handle, hok]

theorem handle_of_error {conflict : RouteConflict}
    (herr : ((engine.tree method).add path handler).2 = .error conflict) :
    engine.handle method path handler =
      (⟨Table.put engine.trees method ((engine.tree method).add path handler).1, engine.routes⟩,
        .error conflict) := by
  simp [handle, herr]

theorem tree_put (engine : Engine η) (t : RouteTree η) (routes : List Route) (m : String) :
    Engine.tree ⟨Table.put engine.trees method t, routes⟩ m = if m = method then t else engine.tree m := by
  simp only [Engine.tree, Table.lookup_put]
  split <;> rfl

/-- What the registration of some routes comes to: the engine has them too, and is as sound, or they
are refused because they do not coexist with the others. -/
def Registers (engine : Engine η) (asked : List Route) (r : Engine η × Except RouteConflict Unit) : Prop :=
  (Coexist (engine.routes ++ asked) ∧ r.2 = .ok () ∧ r.1.Sound ∧ r.1.routes = engine.routes ++ asked) ∨
    (¬ Coexist (engine.routes ++ asked) ∧ ∃ conflict, r.2 = .error conflict)

theorem handle_registers (h : engine.Sound) (method path : String) (handler : η) :
    engine.Registers [⟨method, path⟩] (engine.handle method path handler) := by
  by_cases hc : Coexist (engine.routes ++ [⟨method, path⟩])
  · have hok := (h.add_ok_iff method path handler).2 hc
    rw [handle_of_ok hok]
    refine .inl ⟨hc, rfl, ⟨hc, fun m => ?_⟩, rfl⟩
    rw [tree_put]
    by_cases hm : m = method
    · subst hm
      rw [if_pos rfl, pathsOf_append_self]
      have hroot : path.toList.head? = some '/' := (hc.wellFormed ⟨m, path⟩ (by simp)).1
      rw [RouteTree.add_of_rooted _ _ hroot] at hok ⊢
      exact (h.trees m).add hok
    · rw [if_neg hm, pathsOf_append_ne (Ne.symm hm)]
      exact h.trees m
  · rw [← h.add_ok_iff method path handler] at hc
    cases herr : ((engine.tree method).add path handler).2 with
    | ok u => exact absurd herr hc
    | error conflict =>
      rw [h.add_ok_iff] at hc
      exact .inr ⟨hc, conflict, by rw [handle_of_error herr]⟩

theorem handleAll_registers (h : engine.Sound) (path : String) (handler : η) (methods : List String) :
    engine.Registers (methods.map (⟨·, path⟩)) (handleAll path handler methods engine) := by
  induction methods generalizing engine with
  | nil =>
    refine .inl ⟨?_, rfl, h, by simp [handleAll]⟩
    simpa using h.coexist
  | cons method methods ih =>
    rcases hr : engine.handle method path handler with ⟨next, outcome⟩
    have hfirst := handle_registers h method path handler
    rw [hr] at hfirst
    rcases hfirst with ⟨-, rfl, hsound, hroutes⟩ | ⟨hc, conflict, rfl⟩
    · have hrest := ih hsound
      rw [handleAll, hr]
      dsimp only at hroutes
      simpa [Registers, hroutes] using hrest
    · refine .inr ⟨fun hall => hc ?_, conflict, by rw [handleAll, hr]⟩
      rw [List.map_cons, List.append_cons] at hall
      exact hall.of_append

end Engine

end Preflight.Routing

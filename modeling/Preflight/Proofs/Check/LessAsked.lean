import Preflight.Proofs.Check.Verdict
import Preflight.Proofs.Report.Levels
import Preflight.Proofs.Routing.Isolation

/-!
# Checks that ask for less

A check that passes still passes when it is asked for less (`check_ok_of_less`): without linting or
without a test of the routes, and at any lower debug level. A lower level shows part of what the
higher one shows, and its router is asked for some of the same routes.
-/

namespace Preflight.Check

open CommandLine Gateway Json Report Routing Schema Source

variable {world : World} {env : Environment} {screen : Screen} {options less : Options} {path : Path}
  {config : ServiceConfig}

/-- Options that ask for no more than others, and differ in nothing else. -/
structure Options.Less (less options : Options) : Prop where
  lint : less.lint = true → options.lint = true
  testRoutes : less.testRoutes = true → options.testRoutes = true
  debug : less.debug ≤ options.debug
  rest : less = { options with lint := less.lint, testRoutes := less.testRoutes, debug := less.debug }

/-! ### The status of a check -/

/-- A check gives status 0 exactly if there is a file and it passes. -/
theorem check_ok_iff : (check (settingOf world env screen) options).result = .ok 0 ↔
    ∃ path, options.path = some path ∧ Passes world env screen options path := by
  rw [← run_ok_iff, check_result]
  cases (run (settingOf world env screen) options).result with
  | ok config => exact ⟨fun _ => ⟨config, rfl⟩, fun _ => rfl⟩
  | error failure =>
    constructor
    · intro h
      cases failure with
      | fault fault => cases h
      | mishap m => cases h
    · rintro ⟨config, h⟩
      cases h

/-! ### The routes at a level -/

theorem routesPass_iff : RoutesPass options config ↔
    (0 < (simulationConfig config options.debug options.port).port ∧
      (simulationConfig config options.debug options.port).port < 65536) ∧
    Coexist (requestedRoutes (simulationConfig config options.debug options.port)) := by
  have hwait : waitMishap? simulationTimeout = none := by decide +kernel
  unfold RoutesPass simulate
  dsimp only [Option.getD_none]
  rw [awaited_default hwait]
  generalize simulationConfig config options.debug options.port = simulated
  by_cases hport : 0 < simulated.port ∧ simulated.port < 65536
  · have hs : (start (fun _ => none) simulated).Settles (requestedRoutes simulated) :=
      start_settles hport fun _ _ => rfl
    rcases hs with ⟨hc, engine, hr, -⟩ | ⟨hc, conflict, hr⟩
    · rw [hr]
      exact ⟨fun _ => ⟨hport, hc⟩, fun _ => rfl⟩
    · rw [hr]
      refine ⟨fun h => ?_, fun h => absurd h.2 hc⟩
      cases h
  · rw [start, if_neg hport]
    refine ⟨fun h => ?_, fun h => absurd h.1 hport⟩
    cases h

/-- What a router is asked for at a level it is asked for at each higher one. -/
theorem requestedRoutes_level {n m : Int} (hnm : n ≤ m) (port : Int) :
    (requestedRoutes (simulationConfig config n port)).Sublist
      (requestedRoutes (simulationConfig config m port)) := by
  have hdebug : (simulationConfig config n port).debug = true →
      (simulationConfig config m port).debug = true := by
    unfold simulationConfig
    dsimp only
    rw [Bool.or_eq_true, Bool.or_eq_true, decide_eq_true_eq, decide_eq_true_eq]
    rintro (hd | hn)
    · exact .inl hd
    · exact .inr (by omega)
  exact requestedRoutes_sublist hdebug

/-! ### Each stage with less -/

theorem routesPass_of_less (h : less.Less options) (hr : RoutesPass options config) :
    RoutesPass less config := by
  obtain ⟨hport, hc⟩ := routesPass_iff.mp hr
  have hl : less.port = options.port := by rw [h.rest]
  refine routesPass_iff.mpr ?_
  rw [hl]
  exact ⟨hport, Coexist.sublist (requestedRoutes_level h.debug options.port) hc⟩

theorem exists_dump_of_less (h : less.Less options)
    (hd : ∃ shown, dump screen options.debug dumpLead config = .ok shown) :
    ∃ shown, dump screen less.debug dumpLead config = .ok shown :=
  exists_dump_of_le h.debug hd

theorem lintPasses_of_less (h : less.Less options) {v : Value} (hl : LintPasses options world v) :
    LintPasses less world v := by
  rw [h.rest]
  exact hl

theorem passes_of_less (h : less.Less options) (hp : Passes world env screen options path) :
    Passes world env screen less path := by
  obtain ⟨config, rendered, v, hf, hv, hs, hl, hd, hr⟩ := hp
  refine ⟨config, rendered, v, hf, hv, hs, fun hw => ?_, fun hw => ?_, fun hw => ?_⟩
  · exact lintPasses_of_less h (hl (h.lint hw))
  · have hdebug := h.debug
    exact exists_dump_of_less h (hd (by omega))
  · exact routesPass_of_less h (hr (h.testRoutes hw))

/-- A check that gives status 0 still does when it is asked for less. -/
theorem check_ok_of_less (world : World) (env : Environment) (screen : Screen) (options : Options)
    (lint testRoutes : Bool) (debug : Int) (hl : lint = true → options.lint = true)
    (ht : testRoutes = true → options.testRoutes = true) (hd : debug ≤ options.debug)
    (h : (check (settingOf world env screen) options).result = .ok 0) :
    (check (settingOf world env screen) { options with lint, testRoutes, debug }).result = .ok 0 := by
  have hless : Options.Less { options with lint, testRoutes, debug } options := ⟨hl, ht, hd, rfl⟩
  obtain ⟨path, hp, hpass⟩ := check_ok_iff.mp h
  exact check_ok_iff.mpr ⟨path, hp, passes_of_less hless hpass⟩

/-- A check of the routes at level 3, and then at level 1 without the routes. -/
theorem check_users_of_less :
    (check (settingOf usersWorld [] plainScreen) { routesOptions with debug := 3 }).result = .ok 0 ∧
      (check (settingOf usersWorld [] plainScreen)
        { routesOptions with debug := 1, testRoutes := false }).result = .ok 0 := by
  have h : (check (settingOf usersWorld [] plainScreen)
      { routesOptions with debug := 3 }).result = .ok 0 :=
    eq_ok_of_toOption (by decide +kernel)
  exact ⟨h, check_ok_of_less usersWorld [] plainScreen { routesOptions with debug := 3 } false false 1
    nofun nofun (by decide) h⟩

end Preflight.Check

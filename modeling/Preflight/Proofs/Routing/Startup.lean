import Preflight.Proofs.Routing.Coexist
import Preflight.Routing.Router

/-!
# Which configurations a router starts on

The routes that a configuration asks for are those of the health check, the debug and echo routes if
they are on, and one for each endpoint that has a proxy. With a valid port and a context that stays
open, a router starts exactly if these routes coexist, and then its routes are these, in order.
-/

namespace Preflight.Routing

open Gateway

/-- The route of an endpoint, if it has a proxy. -/
def routeOf? (config : ServiceConfig) (endpoint : EndpointConfig) : Option Route :=
  match Proxy.ofEndpoint config endpoint with
  | .ok _ => some ⟨endpoint.method, endpointPath endpoint.path⟩
  | .error _ => none

/-- A path under each method, if it is wanted. -/
def anyRoutes (wanted : Bool) (path : String) : List Route :=
  if wanted then anyMethods.map (⟨·, path⟩) else []

def requestedRoutes (config : ServiceConfig) : List Route :=
  ⟨"GET", healthPath⟩ :: (anyRoutes config.debug debugPath ++ anyRoutes config.echo echoPath ++
    config.endpoints.filterMap (routeOf? config))

/-- What a start comes to that asks for some routes: an engine with these routes, or a conflict if
they do not coexist. -/
def Startup.Settles (s : Startup) (asked : List Route) : Prop :=
  (Coexist asked ∧ ∃ engine, s.result = .ok engine ∧ engine.routes = asked) ∨
    (¬ Coexist asked ∧ ∃ conflict, s.result = .error (.conflict conflict))

variable {config : ServiceConfig} {engine : Engine Handler} {asked more : List Route}
  {context : Nat → Option ContextEnd}

theorem settles_logged {s : Startup} (level : Level) (message : String) :
    (s.logged level message).Settles asked ↔ s.Settles asked := Iff.rfl

theorem settles_built {s : Startup} (p : Proxy) : (s.built p).Settles asked ↔ s.Settles asked := Iff.rfl

theorem proceed_settles {r : Engine Handler × Except RouteConflict Unit} {k : Engine Handler → Startup}
    (hr : engine.Registers asked r)
    (hk : ∀ next : Engine Handler, next.Sound → next.routes = engine.routes ++ asked →
      (k next).Settles (engine.routes ++ asked ++ more)) :
    (proceed r k).Settles (engine.routes ++ asked ++ more) := by
  obtain ⟨next, outcome⟩ := r
  rcases hr with ⟨-, rfl, hsound, hroutes⟩ | ⟨hc, conflict, rfl⟩
  · exact hk next hsound hroutes
  · exact .inr ⟨fun hall => hc hall.of_append, conflict, rfl⟩

theorem registerAny_settles (h : engine.Sound) (wanted : Bool) (path : String) (handler : Handler)
    {k : Engine Handler → Startup}
    (hk : ∀ next : Engine Handler, next.Sound → next.routes = engine.routes ++ anyRoutes wanted path →
      (k next).Settles (engine.routes ++ anyRoutes wanted path ++ more)) :
    (registerAny wanted path handler engine k).Settles
      (engine.routes ++ anyRoutes wanted path ++ more) := by
  cases wanted with
  | false => exact hk engine h (by simp [anyRoutes])
  | true => exact proceed_settles (Engine.handleAll_registers h path handler anyMethods) hk

theorem registerEndpoints_settles (h : engine.Sound) (endpoints : List EndpointConfig) (i : Nat)
    (hopen : ∀ j, j < endpoints.length → context (i + j) = none) :
    (registerEndpoints context config i endpoints engine).Settles
      (engine.routes ++ endpoints.filterMap (routeOf? config)) := by
  induction endpoints generalizing i engine with
  | nil => exact .inl ⟨by simpa using h.coexist, engine, rfl, by simp⟩
  | cons endpoint endpoints ih =>
    have hnow : context i = none := hopen 0 (by simp)
    have hlater : ∀ j, j < endpoints.length → context (i + 1 + j) = none := fun j hj => by
      have := hopen (j + 1) (by simpa using hj)
      rwa [Nat.add_right_comm i 1 j]
    rw [registerEndpoints, hnow]
    dsimp only
    cases hp : Proxy.ofEndpoint config endpoint with
    | error fault =>
      have hroute : routeOf? config endpoint = none := by simp [routeOf?, hp]
      rw [List.filterMap_cons_none hroute]
      dsimp only
      rw [settles_logged]
      exact ih h (i + 1) hlater
    | ok p =>
      have hroute : routeOf? config endpoint = some ⟨endpoint.method, endpointPath endpoint.path⟩ := by
        simp [routeOf?, hp]
      rw [List.filterMap_cons_some hroute, List.append_cons]
      dsimp only
      rw [settles_logged, settles_built]
      refine proceed_settles (Engine.handle_registers h _ _ _) fun next hsound hroutes => ?_
      rw [← hroutes]
      exact ih hsound (i + 1) hlater

theorem start_settles (hport : 0 < config.port ∧ config.port < 65536)
    (hopen : ∀ i, i < config.endpoints.length → context i = none) :
    (start context config).Settles (requestedRoutes config) := by
  have hall : requestedRoutes config = (Engine.empty : Engine Handler).routes ++
      [⟨"GET", healthPath⟩] ++ (anyRoutes config.debug debugPath ++ (anyRoutes config.echo echoPath ++
        config.endpoints.filterMap (routeOf? config))) := by
    simp [requestedRoutes, Engine.empty]
  rw [start, if_pos hport, hall]
  refine proceed_settles (Engine.handle_registers Engine.sound_empty _ _ _) fun e₁ h₁ hr₁ => ?_
  rw [← hr₁, ← List.append_assoc]
  refine registerAny_settles h₁ _ _ _ fun e₂ h₂ hr₂ => ?_
  rw [← hr₂, ← List.append_assoc]
  refine registerAny_settles h₂ _ _ _ fun e₃ h₃ hr₃ => ?_
  rw [← hr₃]
  exact registerEndpoints_settles h₃ _ 0 (by simpa using hopen)

/-! ### Contexts that say the same -/

theorem registerEndpoints_congr {other : Nat → Option ContextEnd} (endpoints : List EndpointConfig)
    (i : Nat) (engine : Engine Handler)
    (h : ∀ j, j < endpoints.length → context (i + j) = other (i + j)) :
    registerEndpoints context config i endpoints engine =
      registerEndpoints other config i endpoints engine := by
  induction endpoints generalizing i engine with
  | nil => rw [registerEndpoints, registerEndpoints]
  | cons endpoint endpoints ih =>
    have hnow : context i = other i := h 0 (by simp)
    have hlater : registerEndpoints context config (i + 1) endpoints =
        registerEndpoints other config (i + 1) endpoints := by
      funext engine
      refine ih (i + 1) engine fun j hj => ?_
      have := h (j + 1) (by simpa using hj)
      rwa [Nat.add_right_comm i 1 j]
    rw [registerEndpoints, registerEndpoints, hnow, hlater]

/-- A start looks at its context once before each endpoint. -/
theorem start_congr {other : Nat → Option ContextEnd}
    (h : ∀ i, i < config.endpoints.length → context i = other i) :
    start context config = start other config := by
  have hendpoints (engine : Engine Handler) :
      registerEndpoints context config 0 config.endpoints engine =
        registerEndpoints other config 0 config.endpoints engine :=
    registerEndpoints_congr config.endpoints 0 engine (by simpa using h)
  unfold start
  simp only [hendpoints]

/-! ### Configurations with the same hosts -/

theorem allTargets_congr {other : ServiceConfig} (h : other.hosts = config.hosts)
    (backends : List BackendConfig) : allTargets other backends = allTargets config backends := by
  induction backends with
  | nil => rfl
  | cons backend backends ih => rw [allTargets, allTargets, ih, targets, targets, hostsFor, hostsFor, h]

/-- Of the service, only its hosts decide what the proxy of an endpoint is. -/
theorem ofEndpoint_congr {other : ServiceConfig} (h : other.hosts = config.hosts)
    (endpoint : EndpointConfig) : Proxy.ofEndpoint other endpoint = Proxy.ofEndpoint config endpoint := by
  simp only [Proxy.ofEndpoint, allTargets_congr h]

theorem routeOf?_congr {other : ServiceConfig} (h : other.hosts = config.hosts) :
    routeOf? other = routeOf? config := by
  funext endpoint
  simp only [routeOf?, ofEndpoint_congr h]

theorem anyRoutes_sublist {wanted more : Bool} (h : wanted = true → more = true) (path : String) :
    (anyRoutes wanted path).Sublist (anyRoutes more path) := by
  cases wanted with
  | false => exact List.nil_sublist _
  | true => rw [h rfl]

/-- Without its debug route, a configuration asks for no other routes than with it. -/
theorem requestedRoutes_sublist {debug : Bool} (h : debug = true → config.debug = true) :
    (requestedRoutes { config with debug }).Sublist (requestedRoutes config) := by
  have hr : routeOf? { config with debug } = routeOf? config := routeOf?_congr rfl
  unfold requestedRoutes
  rw [hr]
  exact (((anyRoutes_sublist h debugPath).append_right _).append_right _).cons_cons _

/-! ### The order of the endpoints -/

theorem requestedRoutes_perm {endpoints : List EndpointConfig} (h : endpoints.Perm config.endpoints) :
    (requestedRoutes { config with endpoints }).Perm (requestedRoutes config) := by
  have hr : routeOf? { config with endpoints } = routeOf? config := routeOf?_congr rfl
  unfold requestedRoutes
  rw [hr]
  exact ((h.filterMap _).append_left _).cons _

theorem Startup.Settles.isOk_iff {s : Startup} (h : s.Settles asked) :
    (∃ engine, s.result = .ok engine) ↔ Coexist asked := by
  rcases h with ⟨hc, engine, hr, -⟩ | ⟨hc, conflict, hr⟩
  · exact ⟨fun _ => hc, fun _ => ⟨engine, hr⟩⟩
  · exact ⟨fun ⟨engine, he⟩ => by simp [hr] at he, fun h => absurd h hc⟩

/-- With a valid port and a context that stays open, a router starts with exactly the routes that the
configuration asks for if these coexist, and else refuses one of them. With any other port it refuses
the port, before there is a proxy or a record. So the order of the endpoints decides nothing but the
order of the routes. -/
theorem start_iff_coexist (context : Nat → Option ContextEnd) (config : ServiceConfig)
    (hopen : ∀ i, i < config.endpoints.length → context i = none) :
    (0 < config.port ∧ config.port < 65536 →
      ((∃ engine, (start context config).result = .ok engine ∧
          engine.routes = requestedRoutes config) ↔ Coexist (requestedRoutes config)) ∧
      (¬ Coexist (requestedRoutes config) →
        ∃ conflict, (start context config).result = .error (.conflict conflict))) ∧
    (¬ (0 < config.port ∧ config.port < 65536) →
      start context config = ⟨[], [], .error (.invalidPort config.port)⟩) ∧
    ∀ endpoints : List EndpointConfig, endpoints.Perm config.endpoints →
      ((∃ engine, (start context { config with endpoints }).result = .ok engine) ↔
        ∃ engine, (start context config).result = .ok engine) := by
  refine ⟨fun hport => ?_, fun hport => by rw [start, if_neg hport], fun endpoints hperm => ?_⟩
  · have hs := start_settles hport hopen
    refine ⟨⟨fun ⟨engine, hr, _⟩ => hs.isOk_iff.1 ⟨engine, hr⟩, fun hc => ?_⟩, fun hc => ?_⟩
    · exact (hs.resolve_right fun h => h.1 hc).2
    · exact (hs.resolve_left fun h => hc h.1).2
  · by_cases hport : 0 < config.port ∧ config.port < 65536
    · have hs := start_settles hport hopen
      have hs' : (start context { config with endpoints }).Settles
          (requestedRoutes { config with endpoints }) :=
        start_settles hport fun i hi => hopen i (hperm.length_eq ▸ hi)
      rw [hs.isOk_iff, hs'.isOk_iff]
      exact Coexist.perm (requestedRoutes_perm hperm)
    · simp [start, hport]

/-- A parameter and a static segment in its place, asked for before a context ends. -/
theorem start_param_beside_static :
    let config : ServiceConfig := ⟨.int 3, "", 8080, ["http://a"], "", false, false, [
      ⟨"/users/\x7bid\x7d", "GET", [⟨"/u", [], "", .members []⟩], "", .members []⟩,
      ⟨"/users/me", "GET", [⟨"/m", [], "", .members []⟩], "", .members []⟩], .members []⟩
    let context : Nat → Option ContextEnd := fun i => if i < 2 then none else some .cancelled
    (∀ i, i < config.endpoints.length → context i = none) ∧
      ∃ engine, (start context config).result = .ok engine ∧
        engine.routes = [⟨"GET", "/__health"⟩, ⟨"GET", "/users/:id"⟩, ⟨"GET", "/users/me"⟩] := by
  intro config context
  have hopen : ∀ i, i < config.endpoints.length → context i = none := by decide
  have hroutes : requestedRoutes config =
      [⟨"GET", "/__health"⟩, ⟨"GET", "/users/:id"⟩, ⟨"GET", "/users/me"⟩] := by decide +kernel
  have hcoexist : Coexist (requestedRoutes config) := by rw [hroutes]; decide +kernel
  have hport : 0 < config.port ∧ config.port < 65536 := by decide
  refine ⟨hopen, ?_⟩
  rw [← hroutes]
  exact (((start_iff_coexist context config hopen).1 hport).1).2 hcoexist

end Preflight.Routing

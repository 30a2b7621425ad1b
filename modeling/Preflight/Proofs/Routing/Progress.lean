import Preflight.Proofs.Results
import Preflight.Proofs.Routing.Startup

/-!
# How far a start comes

A start visits the endpoints one after another, until there are no more, its context is done, or a
route is refused (`Ends`). Each endpoint that it visits leaves one record: of its proxy, which then
asks for a route, or of why it has none (`start_visits`).
-/

namespace Preflight.Routing

open Gateway

/-- The routes that are asked for whatever the endpoints are. -/
def ownRoutes (debug echo : Bool) : List Route :=
  ⟨"GET", healthPath⟩ :: (anyRoutes debug debugPath ++ anyRoutes echo echoPath)

/-- The record of a visit: of the proxy of an endpoint, or of why it has none. -/
def visitRecord (config : ServiceConfig) (endpoint : EndpointConfig) : Level × String :=
  match Proxy.ofEndpoint config endpoint with
  | .ok p => (.debug, p.text)
  | .error fault => (.error, skippedMessage endpoint.path fault)

def proxyOf? (config : ServiceConfig) (endpoint : EndpointConfig) : Option Proxy :=
  (Proxy.ofEndpoint config endpoint).toOption

variable {config : ServiceConfig} {asked : List Route} {context : Nat → Option ContextEnd} {i : Nat}
  {visited rest endpoints : List EndpointConfig} {endpoint : EndpointConfig}
  {closing : List (Level × String)} {engine : Engine Handler}

/-- How a start ends that had some routes before it visited the endpoints from the `i`-th one on: with a
closing record and the routes of all endpoints, or of those before its context was done, or with the
refusal of the last route that it asked for. -/
inductive Ends (context : Nat → Option ContextEnd) (config : ServiceConfig) (asked : List Route)
    (i : Nat) : List EndpointConfig → List EndpointConfig → List (Level × String) →
      Except RouterFault (Engine Handler) → Prop
  | finished {visited : List EndpointConfig} {engine : Engine Handler} (hs : engine.Sound)
      (hr : engine.routes = asked ++ visited.filterMap (routeOf? config)) :
      Ends context config asked i visited [] [(.info, startedMessage config engine)] (.ok engine)
  | stopped {visited rest : List EndpointConfig} {endpoint : EndpointConfig} {reason : ContextEnd}
      {engine : Engine Handler} (hd : context (i + visited.length) = some reason) (hs : engine.Sound)
      (hr : engine.routes = asked ++ visited.filterMap (routeOf? config)) :
      Ends context config asked i visited (endpoint :: rest) [(.warning, stoppedMessage reason)]
        (.ok engine)
  | refused {before rest : List EndpointConfig} {last : EndpointConfig} {conflict : RouteConflict}
      (hc : Coexist (asked ++ before.filterMap (routeOf? config)))
      (hn : ¬ Coexist (asked ++ (before ++ [last]).filterMap (routeOf? config))) :
      Ends context config asked i (before ++ [last]) rest [] (.error (.conflict conflict))

/-- A start, or what is left of it, that visits some of its endpoints. -/
structure Startup.Visits (s : Startup) (context : Nat → Option ContextEnd) (config : ServiceConfig)
    (asked : List Route) (i : Nat) (visited rest : List EndpointConfig)
    (closing : List (Level × String)) : Prop where
  opened : ∀ j, j < visited.length → context (i + j) = none
  proxies : s.proxies = visited.filterMap (proxyOf? config)
  logs : s.logs = visited.map (visitRecord config) ++ closing
  ends : Ends context config asked i visited rest closing s.result

theorem Ends.cons {r : Except RouterFault (Engine Handler)}
    (h : Ends context config (asked ++ (routeOf? config endpoint).toList) (i + 1) visited rest closing r) :
    Ends context config asked i (endpoint :: visited) rest closing r := by
  have hf (l : List EndpointConfig) : asked ++ (routeOf? config endpoint).toList ++
      l.filterMap (routeOf? config) = asked ++ (endpoint :: l).filterMap (routeOf? config) := by
    rw [filterMap_cons_toList, List.append_assoc]
  cases h with
  | finished hs hr => exact .finished hs (by rw [hr, hf])
  | stopped hd hs hr =>
    refine .stopped ?_ hs (by rw [hr, hf])
    rw [List.length_cons, Nat.add_comm visited.length 1, ← Nat.add_assoc]
    exact hd
  | refused hc hn =>
    rw [hf] at hc hn
    exact .refused hc hn

theorem Startup.Visits.cons {s : Startup} (more : Startup) (hopen : context i = none)
    (h : more.Visits context config (asked ++ (routeOf? config endpoint).toList) (i + 1) visited rest
      closing)
    (hp : s.proxies = (proxyOf? config endpoint).toList ++ more.proxies)
    (hl : s.logs = visitRecord config endpoint :: more.logs) (hr : s.result = more.result) :
    s.Visits context config asked i (endpoint :: visited) rest closing := by
  refine ⟨fun j hj => ?_, ?_, ?_, ?_⟩
  · cases j with
    | zero => exact hopen
    | succ j =>
      have := h.opened j (by simpa using hj)
      rwa [Nat.add_assoc, Nat.add_comm 1 j] at this
  · rw [hp, h.proxies, filterMap_cons_toList]
  · rw [hl, h.logs]
    rfl
  · rw [hr]
    exact h.ends.cons

/-- What is left of a start once it has visited an endpoint. -/
def afterVisit (context : Nat → Option ContextEnd) (config : ServiceConfig) (i : Nat)
    (endpoint : EndpointConfig) (endpoints : List EndpointConfig) (engine : Engine Handler) : Startup :=
  match Proxy.ofEndpoint config endpoint with
  | .error _ => registerEndpoints context config (i + 1) endpoints engine
  | .ok p =>
    proceed (engine.handle endpoint.method (endpointPath endpoint.path) (.proxy p))
      (registerEndpoints context config (i + 1) endpoints)

theorem registerEndpoints_cons (hopen : context i = none) :
    registerEndpoints context config i (endpoint :: endpoints) engine =
      let more := afterVisit context config i endpoint endpoints engine
      ⟨(proxyOf? config endpoint).toList ++ more.proxies, visitRecord config endpoint :: more.logs,
        more.result⟩ := by
  rw [registerEndpoints, hopen]
  unfold afterVisit proxyOf? visitRecord
  cases Proxy.ofEndpoint config endpoint with
  | error fault => rfl
  | ok p =>
    dsimp only
    generalize proceed _ _ = more
    rfl

theorem afterVisit_cases (h : engine.Sound) (endpoint : EndpointConfig) (endpoints : List EndpointConfig)
    (i : Nat) :
    (∃ next : Engine Handler, next.Sound ∧
      next.routes = engine.routes ++ (routeOf? config endpoint).toList ∧
      afterVisit context config i endpoint endpoints engine =
        registerEndpoints context config (i + 1) endpoints next) ∨
    ¬ Coexist (engine.routes ++ (routeOf? config endpoint).toList) ∧ ∃ conflict,
      afterVisit context config i endpoint endpoints engine = ⟨[], [], .error (.conflict conflict)⟩ := by
  unfold afterVisit routeOf?
  cases Proxy.ofEndpoint config endpoint with
  | error fault => exact .inl ⟨engine, h, (List.append_nil _).symm, rfl⟩
  | ok p =>
    dsimp only
    rcases hreg : engine.handle endpoint.method (endpointPath endpoint.path) (.proxy p) with ⟨next, outcome⟩
    have hregisters := Engine.handle_registers h endpoint.method (endpointPath endpoint.path) (.proxy p)
    rw [hreg] at hregisters
    rcases hregisters with ⟨-, rfl, hsound, hroutes⟩ | ⟨hn, conflict, rfl⟩
    · exact .inl ⟨next, hsound, hroutes, rfl⟩
    · exact .inr ⟨hn, conflict, rfl⟩

theorem registerEndpoints_visits (h : engine.Sound) (endpoints : List EndpointConfig) (i : Nat) :
    ∃ visited rest closing, endpoints = visited ++ rest ∧
      (registerEndpoints context config i endpoints engine).Visits context config engine.routes i
        visited rest closing := by
  induction endpoints generalizing i engine with
  | nil =>
    exact ⟨[], [], _, rfl, fun j hj => absurd hj (by simp), rfl, rfl, .finished h (by simp)⟩
  | cons endpoint endpoints ih =>
    cases hnow : context i with
    | some reason =>
      rw [registerEndpoints, hnow]
      exact ⟨[], endpoint :: endpoints, _, rfl, fun j hj => absurd hj (by simp), rfl, rfl,
        .stopped hnow h (by simp)⟩
    | none =>
      rw [registerEndpoints_cons hnow]
      rcases afterVisit_cases h endpoint endpoints i with
        ⟨next, hsound, hroutes, hmore⟩ | ⟨hn, conflict, hmore⟩
      · obtain ⟨visited, rest, closing, hsplit, hv⟩ := ih hsound (i + 1)
        rw [hroutes, ← hmore] at hv
        exact ⟨endpoint :: visited, rest, closing, by rw [hsplit]; rfl, .cons _ hnow hv rfl rfl rfl⟩
      · rw [hmore]
        refine ⟨[endpoint], endpoints, [], rfl, fun j hj => ?_, ?_, rfl, ?_⟩
        · obtain rfl : j = 0 := by simpa using hj
          exact hnow
        · rw [filterMap_cons_toList]
          rfl
        · rw [← List.nil_append [endpoint]]
          refine .refused (by simpa using h.coexist) ?_
          rwa [List.nil_append, filterMap_cons_toList, List.filterMap_nil, List.append_nil]

/-! ### From the start -/

theorem coexist_ownRoutes : ∀ debug echo, Coexist (ownRoutes debug echo) := by decide +kernel

theorem proceed_of_coexist {r : Engine Handler × Except RouteConflict Unit} {k : Engine Handler → Startup}
    (hr : engine.Registers asked r) (hc : Coexist (engine.routes ++ asked)) :
    ∃ next : Engine Handler, next.Sound ∧ next.routes = engine.routes ++ asked ∧ proceed r k = k next := by
  obtain ⟨next, outcome⟩ := r
  rcases hr with ⟨-, rfl, hsound, hroutes⟩ | ⟨hn, -⟩
  · exact ⟨next, hsound, hroutes, rfl⟩
  · exact absurd hc hn

theorem registerAny_of_coexist (h : engine.Sound) (wanted : Bool) (path : String) (handler : Handler)
    {k : Engine Handler → Startup} (hc : Coexist (engine.routes ++ anyRoutes wanted path)) :
    ∃ next : Engine Handler, next.Sound ∧ next.routes = engine.routes ++ anyRoutes wanted path ∧
      registerAny wanted path handler engine k = k next := by
  cases wanted with
  | false => exact ⟨engine, h, by simp [anyRoutes], rfl⟩
  | true => exact proceed_of_coexist (Engine.handleAll_registers h path handler anyMethods) hc

/-- A start with a valid port visits endpoints up to where it ends. -/
theorem start_visits (context : Nat → Option ContextEnd)
    (hport : 0 < config.port ∧ config.port < 65536) :
    ∃ visited rest closing, config.endpoints = visited ++ rest ∧
      (start context config).Visits context config (ownRoutes config.debug config.echo) 0 visited rest
        closing := by
  have hown : Coexist ((Engine.empty : Engine Handler).routes ++ [⟨"GET", healthPath⟩] ++
      anyRoutes config.debug debugPath ++ anyRoutes config.echo echoPath) := by
    simpa [ownRoutes, Engine.empty] using coexist_ownRoutes config.debug config.echo
  rw [start, if_pos hport]
  obtain ⟨e₁, h₁, hr₁, hs⟩ := proceed_of_coexist
    (Engine.handle_registers Engine.sound_empty "GET" healthPath .health) hown.of_append.of_append
  rw [hs]
  rw [← hr₁] at hown
  obtain ⟨e₂, h₂, hr₂, hs⟩ := registerAny_of_coexist h₁ config.debug debugPath .debug hown.of_append
  rw [hs]
  rw [← hr₂] at hown
  obtain ⟨e₃, h₃, hr₃, hs⟩ := registerAny_of_coexist h₂ config.echo echoPath .echo hown
  rw [hs]
  have hroutes : e₃.routes = ownRoutes config.debug config.echo := by
    rw [hr₃, hr₂, hr₁]
    simp [ownRoutes, Engine.empty]
  rw [← hroutes]
  exact registerEndpoints_visits h₃ config.endpoints 0

end Preflight.Routing

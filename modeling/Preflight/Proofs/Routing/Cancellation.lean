import Preflight.Proofs.Gateway.Reading
import Preflight.Proofs.Routing.Startup

/-!
# Starts that are cut off

A router looks at its context before each endpoint, and not again before the next one. So a start whose
context is done from the `n`-th look on comes to what a start with an open context makes of the first `n`
endpoints alone (`start_cut_off`). Only the closing record may differ.
-/

namespace Preflight.Routing

open Gateway

/-- A record of an endpoint: of its proxy, or of why it has none. -/
def IsEndpointRecord (r : Level × String) : Prop := r.1 = .debug ∨ r.1 = .error

/-- Two starts that come to the same, except that each has a closing record of its own. -/
structure Startup.SameButClosing (closing closing' : Engine Handler → Level × String)
    (s s' : Startup) : Prop where
  proxies : s.proxies = s'.proxies
  result : s.result = s'.result
  failed : ∀ fault, s.result = .error fault → s.logs = s'.logs
  started : ∀ engine, s.result = .ok engine → ∃ records, (∀ r ∈ records, IsEndpointRecord r) ∧
    s.logs = records ++ [closing engine] ∧ s'.logs = records ++ [closing' engine]

variable {closing closing' : Engine Handler → Level × String} {s s' : Startup}
  {k k' : Engine Handler → Startup} {config : ServiceConfig} {context : Nat → Option ContextEnd}
  {n : Nat} {reason : ContextEnd}

namespace Startup.SameButClosing

theorem finish (engine : Engine Handler) :
    SameButClosing closing closing' (.finish [closing engine] engine) (.finish [closing' engine] engine) := by
  refine ⟨rfl, rfl, fun fault h => ?_, fun engine' h => ?_⟩
  · cases h
  · cases h
    exact ⟨[], by simp, rfl, rfl⟩

theorem logged {level : Level} (h : s.SameButClosing closing closing' s') (message : String)
    (hl : IsEndpointRecord (level, message)) :
    (s.logged level message).SameButClosing closing closing' (s'.logged level message) := by
  refine ⟨h.proxies, h.result, fun fault hf => ?_, fun engine he => ?_⟩
  · show (level, message) :: s.logs = (level, message) :: s'.logs
    rw [h.failed fault hf]
  · obtain ⟨records, hr, hs, hs'⟩ := h.started engine he
    refine ⟨(level, message) :: records, List.forall_mem_cons.mpr ⟨hl, hr⟩, ?_, ?_⟩
    · simp [Startup.logged, hs]
    · simp [Startup.logged, hs']

theorem built (h : s.SameButClosing closing closing' s') (p : Proxy) :
    (s.built p).SameButClosing closing closing' (s'.built p) :=
  ⟨congrArg (p :: ·) h.proxies, h.result, h.failed, h.started⟩

theorem proceed (r : Engine Handler × Except RouteConflict Unit)
    (hk : ∀ engine, (k engine).SameButClosing closing closing' (k' engine)) :
    (proceed r k).SameButClosing closing closing' (Routing.proceed r k') := by
  obtain ⟨engine, conflict | ⟨⟨⟩⟩⟩ := r
  · refine ⟨rfl, rfl, fun fault _ => rfl, fun engine h => ?_⟩
    cases h
  · exact hk engine

theorem registerAny (wanted : Bool) (path : String) (handler : Handler) (engine : Engine Handler)
    (hk : ∀ engine, (k engine).SameButClosing closing closing' (k' engine)) :
    (registerAny wanted path handler engine k).SameButClosing closing closing'
      (Routing.registerAny wanted path handler engine k') := by
  cases wanted with
  | false => exact hk engine
  | true => exact SameButClosing.proceed _ hk

end Startup.SameButClosing

/-- How a start closes whose context is done before the endpoint after the first `n` of them. -/
def closingRecord (config : ServiceConfig) (cutOff : Bool) (reason : ContextEnd)
    (engine : Engine Handler) : Level × String :=
  if cutOff then (.warning, stoppedMessage reason) else (.info, startedMessage config engine)

/-- The endpoints before the context is done are registered as if there were no others. The look that
finds the context done comes before the endpoint after them, whatever became of the last of them. -/
theorem registerEndpoints_cut_off {other : ServiceConfig} (hhosts : other.hosts = config.hosts)
    (hport : other.port = config.port) (endpoints : List EndpointConfig) (i j : Nat)
    (engine : Engine Handler)
    (hdone : ∀ l, l < endpoints.length → ((context (i + l)).isSome = true ↔ n ≤ l))
    (hreason : n < endpoints.length → context (i + n) = some reason) :
    (registerEndpoints context config i endpoints engine).SameButClosing
      (closingRecord config (decide (n < endpoints.length)) reason) (closingRecord config false reason)
      (registerEndpoints (fun _ => none) other j (endpoints.take n) engine) := by
  have hstarted (engine : Engine Handler) : startedMessage other engine = startedMessage config engine := by
    unfold startedMessage
    rw [hport]
  induction endpoints generalizing i j n engine with
  | nil =>
    rw [List.take_nil, registerEndpoints, registerEndpoints, hstarted]
    exact .finish engine
  | cons endpoint endpoints ih =>
    cases n with
    | zero =>
      have hnow : context i = some reason := hreason (by simp)
      rw [List.take_zero, registerEndpoints, registerEndpoints, hnow, hstarted]
      exact .finish engine
    | succ n =>
      have hnow : context i = none := by
        have h := hdone 0 (by simp)
        simpa using h
      have hlen : decide (n + 1 < (endpoint :: endpoints).length) = decide (n < endpoints.length) := by
        simp
      have hlater (engine : Engine Handler) := ih (n := n) (i + 1) (j + 1) engine
        (fun l hl => by
          have h := hdone (l + 1) (by simpa using hl)
          rwa [Nat.add_le_add_iff_right, ← Nat.add_assoc, Nat.add_right_comm] at h)
        (fun hn => by
          have h := hreason (by simpa using hn)
          rwa [← Nat.add_assoc, Nat.add_right_comm] at h)
      rw [hlen, List.take_succ_cons, registerEndpoints, registerEndpoints, hnow,
        ofEndpoint_congr hhosts]
      cases Proxy.ofEndpoint config endpoint with
      | error fault => exact (hlater engine).logged _ (.inr rfl)
      | ok p => exact ((Startup.SameButClosing.proceed _ hlater).built p).logged _ (.inl rfl)

/-- A start whose context is done from the `n`-th look on, be it before the run or while the proxy of the
`n`-th endpoint is made, comes to what a start with an open context comes to on the first `n` endpoints:
the same proxies, the same engine or the same fault. If there is no fault, its records are the same up
to the last one, which is a warning that the start was stopped if there are endpoints left, and tells
that it came to its end otherwise. -/
theorem start_cut_off (contexts : Nat → Context) (clock : Nat → Time) (config : ServiceConfig) (n : Nat)
    (hdone : ∀ i, i < config.endpoints.length → ((contexts i).done (clock i) = true ↔ n ≤ i)) :
    let stopped := start (fun i => (contexts i).err (clock i)) config
    let cut := start (fun _ => none) { config with endpoints := config.endpoints.take n }
    stopped.proxies = cut.proxies ∧ stopped.result = cut.result ∧
    (∀ fault, stopped.result = .error fault → stopped.logs = cut.logs) ∧
    ∀ engine, stopped.result = .ok engine → ∃ records closing,
      (∀ r ∈ records, IsEndpointRecord r) ∧ stopped.logs = records ++ [closing] ∧
      cut.logs = records ++ [(.info, startedMessage config engine)] ∧
      if n < config.endpoints.length then
        ∃ reason, (contexts n).err (clock n) = some reason ∧ closing = (.warning, stoppedMessage reason)
      else closing = (.info, startedMessage config engine) := by
  intro stopped cut
  obtain ⟨reason, hreason⟩ : ∃ reason, n < config.endpoints.length →
      (contexts n).err (clock n) = some reason := by
    by_cases hn : n < config.endpoints.length
    · obtain ⟨reason, hr⟩ := Option.isSome_iff_exists.mp ((hdone n hn).mpr (Nat.le_refl n))
      exact ⟨reason, fun _ => hr⟩
    · exact ⟨.cancelled, fun h => absurd h hn⟩
  have hsame : stopped.SameButClosing
      (closingRecord config (decide (n < config.endpoints.length)) reason)
      (closingRecord config false reason) cut := by
    show (start _ config).SameButClosing _ _ (start _ { config with endpoints := _ })
    unfold start
    dsimp only
    split
    · have hhosts : { config with endpoints := config.endpoints.take n }.hosts = config.hosts := rfl
      refine .proceed _ fun e₁ => .registerAny _ _ _ _ fun e₂ => .registerAny _ _ _ _ fun e₃ => ?_
      exact registerEndpoints_cut_off hhosts rfl config.endpoints 0 0 e₃
        (fun i hi => by rw [Nat.zero_add]; exact hdone i hi)
        (fun hn => by rw [Nat.zero_add]; exact hreason hn)
    · refine ⟨rfl, rfl, fun fault _ => rfl, fun engine h => ?_⟩
      cases h
  refine ⟨hsame.proxies, hsame.result, hsame.failed, fun engine he => ?_⟩
  obtain ⟨records, hr, hs, hc⟩ := hsame.started engine he
  refine ⟨records, _, hr, hs, hc, ?_⟩
  by_cases hn : n < config.endpoints.length
  · rw [if_pos hn]
    exact ⟨reason, hreason hn, by simp [closingRecord, hn]⟩
  · rw [if_neg hn]
    simp [closingRecord, hn]

/-- The context is cancelled while the second of three endpoints is asked for its proxy, which it has none
of, as it has no hosts. -/
theorem start_cut_off_without_proxy :
    let config : ServiceConfig := ⟨.int 3, "", 8080, [], "", false, false, [
      ⟨"/users", "GET", [⟨"/u", ["http://a"], "", .members []⟩], "", .members []⟩,
      ⟨"/orders", "GET", [⟨"/o", [], "", .members []⟩], "", .members []⟩,
      ⟨"/users", "GET", [⟨"/u", ["http://a"], "", .members []⟩], "", .members []⟩], .members []⟩
    let contexts : Nat → Context := fun i => ⟨some 1, decide (2 ≤ i)⟩
    let stopped := start (fun i => (contexts i).err 0) config
    (∀ i, i < config.endpoints.length → ((contexts i).done 0 = true ↔ 2 ≤ i)) ∧
      (∃ engine, stopped.result = .ok engine ∧ engine.routes = [⟨"GET", "/__health"⟩, ⟨"GET", "/users"⟩]) ∧
      stopped.logs.getLast? = some (.warning, "[SERVICE: Router] stopped: context canceled") := by
  intro config contexts stopped
  have hdone : ∀ i, i < config.endpoints.length → ((contexts i).done 0 = true ↔ 2 ≤ i) := by
    decide +kernel
  obtain ⟨-, hresult, -, hclosing⟩ := start_cut_off contexts (fun _ => 0) config 2 hdone
  have hcut : (start (fun _ => none) { config with endpoints := config.endpoints.take 2 }).result.toOption.map
      Engine.routes = some [⟨"GET", "/__health"⟩, ⟨"GET", "/users"⟩] := by decide +kernel
  rw [← hresult] at hcut
  obtain ⟨engine, he, hroutes⟩ := Option.map_eq_some_iff.mp hcut
  have hok : stopped.result = .ok engine := eq_ok_of_toOption he
  obtain ⟨records, closing, -, hlogs, -, hlast⟩ := hclosing engine hok
  obtain ⟨reason, hreason, rfl⟩ := (if_pos (by decide)).mp hlast
  refine ⟨hdone, ⟨engine, hok, hroutes⟩, ?_⟩
  have hr : reason = .cancelled := by
    have hc : (contexts 2).err 0 = some .cancelled := rfl
    exact Option.some.inj (hreason.symm.trans hc)
  show stopped.logs.getLast? = _
  rw [hlogs, List.getLast?_concat, hr]
  rfl

end Preflight.Routing

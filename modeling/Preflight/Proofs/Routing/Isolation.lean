import Mathlib.Data.NNRat.Lemmas
import Preflight.Proofs.Routing.Startup
import Preflight.Routing.Simulation

/-!
# Simulations keep faults in

Making a router and running it takes time and may go wrong in any way. A simulation waits until its
deadline: it fails exactly with a fault that was raised before, it passes over a router that takes longer
with one warning, and it always leaves the router's context done (`simulate_isolates`). Of a real router
it shows nothing but whether it starts. Only putting a fault into words is not kept in: what goes wrong
with that ends the simulation (`simulate_wordless`), as does a time that cannot be waited for.
-/

namespace Preflight.Routing

open Gateway Json

/-- How making or running a router goes if nothing cuts it short: after some time it returns or raises a
fault, or it goes on for ever. -/
inductive Course
  | returns (span : NNRat)
  | raises (span : NNRat) (fault : StartFault)
  | endless

namespace Course

/-- When a course ends, if it does. -/
def span? : Course → Option NNRat
  | .returns span => some span
  | .raises span _ => some span
  | .endless => none

/-- A course that has not ended before a deadline. -/
def IsLate (limit : Time) (c : Course) : Prop := ∀ span ∈ c.span?, limit ≤ span

/-- What is seen of a course by someone who waits for a limited time. -/
def within (limit : Time) : Course → Except Setback Unit
  | .returns span => if (span : Time) < limit then .ok () else .error .hung
  | .raises span fault => if (span : Time) < limit then .error (.raised fault) else .error .hung
  | .endless => .error .hung

def after (span : NNRat) : Course → Course
  | .returns more => .returns (span + more)
  | .raises more fault => .raises (span + more) fault
  | .endless => .endless

/-- A course and, if it returns, another one behind it. -/
def followedBy (c next : Course) : Course :=
  match c with
  | .returns span => next.after span
  | c => c

variable {c : Course} {limit : Time}

theorem within_of_isLate (h : c.IsLate limit) : c.within limit = .error .hung := by
  cases c with
  | returns span => exact if_neg (not_lt.mpr (h span rfl))
  | raises span fault => exact if_neg (not_lt.mpr (h span rfl))
  | endless => rfl

theorem within_eq_raised_iff {fault : StartFault} :
    c.within limit = .error (.raised fault) ↔ ∃ span : NNRat, (span : Time) < limit ∧ c = .raises span fault := by
  constructor
  · intro h
    cases c with
    | returns span =>
      by_cases hlt : (span : Time) < limit
      · rw [within, if_pos hlt] at h
        cases h
      · rw [within, if_neg hlt] at h
        cases h
    | raises span fault' =>
      by_cases hlt : (span : Time) < limit
      · rw [within, if_pos hlt] at h
        cases h
        exact ⟨span, hlt, rfl⟩
      · rw [within, if_neg hlt] at h
        cases h
    | endless => cases h
  · rintro ⟨span, hlt, rfl⟩
    exact if_pos hlt

theorem isLate_after {span : NNRat} (h : limit ≤ span) (c : Course) : (c.after span).IsLate limit := by
  have hle (more : NNRat) : limit ≤ ((span + more : NNRat) : Time) := by
    rw [NNRat.coe_add]
    exact le_add_of_le_of_nonneg h more.2
  intro total ht
  cases c with
  | returns more =>
    cases ht
    exact hle more
  | raises more fault =>
    cases ht
    exact hle more
  | endless => cases ht

end Course

/-- What makes routers and runs them, with the time that it takes and what a router shows meanwhile. -/
structure Builder where
  make : Context → Course
  run : Context → ServiceConfig → Course
  shows : Context → ServiceConfig → List Event := fun _ _ => []

namespace Builder

def start (b : Builder) (context : Context) (config : ServiceConfig) : Course :=
  (b.make context).followedBy (b.run context config)

/-- The builder as seen by someone who waits for a limited time. -/
def seenWithin (limit : Time) (b : Builder) : Factory where
  make context := ⟨[], (b.make context).within limit⟩
  run context config := ⟨b.shows context config, (b.start context config).within limit⟩

/-- What a router shows to someone who waits for a limited time: nothing unless it is made by then. -/
def shown (limit : Time) (b : Builder) (context : Context) (config : ServiceConfig) : List Event :=
  match (b.make context).within limit with
  | .ok _ => b.shows context config
  | .error _ => []

theorem events_seenWithin (b : Builder) (limit : Time) (context : Context) (config : ServiceConfig) :
    ((b.seenWithin limit).start context config).events = b.shown limit context config := by
  unfold Factory.start seenWithin shown
  dsimp only
  cases (b.make context).within limit with
  | ok _ => rw [Run.bind_of_ok _ rfl, List.nil_append]
  | error setback => rw [Run.bind_of_error _ rfl]

/-- A start is seen as its two parts are seen one after the other. -/
theorem start_seenWithin (b : Builder) (limit : Time) (context : Context) (config : ServiceConfig) :
    ((b.seenWithin limit).start context config).result = (b.start context config).within limit := by
  unfold Factory.start seenWithin
  dsimp only
  cases hm : (b.make context).within limit with
  | ok _ =>
    rw [Run.bind_of_ok _ rfl]
  | error setback =>
    -- a router that is not made in time does not run in time either
    rw [Run.bind_of_error _ rfl]
    dsimp only
    rw [← hm]
    cases hc : b.make context with
    | returns span =>
      rw [hc] at hm
      have hlt : ¬ (span : Time) < limit := fun hlt => by
        rw [Course.within, if_pos hlt] at hm
        cases hm
      have hlate : (b.start context config).IsLate limit := by
        unfold Builder.start
        rw [hc]
        exact Course.isLate_after (not_lt.mp hlt) _
      rw [Course.within_of_isLate hlate, Course.within, if_neg hlt]
    | raises span fault => rw [Builder.start, hc]; rfl
    | endless => rw [Builder.start, hc]; rfl

end Builder

/-! ### Faults in words -/

theorem routerFault_message_ne (fault : RouterFault) : fault.message ≠ "" := by
  unfold RouterFault.message
  cases fault with
  | invalidPort port => exact mt (fun h => (String.append_eq_empty_iff.mp h).1) (by decide)
  | conflict c => cases c <;> exact mt (fun h => (String.append_eq_empty_iff.mp h).2) (by decide)

namespace StartFault

theorem kind_ne (fault : StartFault) : fault.kind ≠ "" := by
  rcases fault with (_ | _) | ⟨kind, _⟩
  · exact (by decide : "ValueError" ≠ "")
  · exact (by decide : "RouteConflictError" ≠ "")
  · exact kind.name_ne

theorem describe_router (fault : RouterFault) : (router fault).describe = .ok fault.message := by
  have hne : (fault.message == "") = false := beq_eq_false_iff_ne.mpr (routerFault_message_ne fault)
  show Except.ok (if fault.message == "" then _ else fault.message) = _
  rw [hne]
  rfl

/-- Words for a fault are its text, or the name of its kind if that is empty, and never nothing. -/
theorem describe_ok_iff {fault : StartFault} {message : String} :
    fault.describe = .ok message ↔
      ∃ text, fault.text = .ok text ∧ message = if text = "" then fault.kind else text := by
  unfold describe
  cases fault.text with
  | ok text =>
    simp only [Except.map, beq_iff_eq, Except.ok.injEq, exists_eq_left']
    exact eq_comm
  | error m => simp [Except.map]

theorem describe_ne {fault : StartFault} {message : String} (h : fault.describe = .ok message) :
    message ≠ "" := by
  obtain ⟨text, -, rfl⟩ := describe_ok_iff.mp h
  split
  · exact fault.kind_ne
  · assumption

theorem describe_error_iff {fault : StartFault} {m : Mishap} :
    fault.describe = .error m ↔ fault.text = .error m := by
  unfold describe
  cases fault.text <;> simp [Except.map]

end StartFault

/-! ### Simulations -/

variable {timeout : Number} {m : Mishap} {r : Run Setback Unit}

theorem settle_fault_iff {ending : Except Setback Unit} {f : SimulationFault} :
    (settle timeout ending).result = .error (.fault f) ↔
      ending = .error (.raised f.fault) ∧ f.fault.describe = .ok f.message := by
  rcases ending with (fault | _) | _
  · simp only [settle]
    cases hd : fault.describe with
    | ok message =>
      constructor
      · intro h
        cases h
        exact ⟨rfl, hd⟩
      · rintro ⟨h, hf⟩
        cases h
        rw [hd] at hf
        cases hf
        rfl
    | error m =>
      refine ⟨nofun, ?_⟩
      rintro ⟨h, hf⟩
      cases h
      rw [hd] at hf
      cases hf
  · exact ⟨nofun, nofun⟩
  · exact ⟨nofun, nofun⟩

theorem settle_mishap_iff {ending : Except Setback Unit} :
    (settle timeout ending).result = .error (.mishap m) ↔
      ∃ fault, ending = .error (.raised fault) ∧ fault.text = .error m := by
  rcases ending with (fault | _) | _
  · simp only [settle, ← StartFault.describe_error_iff]
    cases hd : fault.describe with
    | ok message =>
      refine ⟨nofun, ?_⟩
      rintro ⟨_, h, hm⟩
      cases h
      rw [hd] at hm
      cases hm
    | error m' =>
      constructor
      · intro h
        cases h
        exact ⟨fault, rfl, hd⟩
      · rintro ⟨_, h, hm⟩
        cases h
        rw [hd] at hm
        cases hm
        rfl
  · exact ⟨nofun, nofun⟩
  · exact ⟨nofun, nofun⟩

theorem settle_events_of_error {ending : Except Setback Unit} {e : Failure SimulationFault}
    (h : (settle timeout ending).result = .error e) : (settle timeout ending).events = [] := by
  rcases ending with (fault | _) | _
  · simp only [settle]
    cases fault.describe <;> rfl
  · cases h
  · cases h

theorem awaited_of_none (h : waitMishap? timeout = none) :
    awaited timeout r =
      ⟨r.events ++ (settle timeout r.result).events, (settle timeout r.result).result⟩ := by
  rw [awaited, h]
  rfl

/-- How a simulation has to end that started a router, given how making and running the router goes and
what it shows meanwhile. -/
structure Simulation.Isolates (s : Simulation) (course : Course) (shown : List Event) (timeout : Number) :
    Prop where
  fails : ∀ f, s.outcome.result = .error (.fault f) ↔
    ∃ span : NNRat, (span : Time) < spanOf timeout ∧ course = .raises span f.fault ∧
      ∃ text, f.fault.text = .ok text ∧ f.message = if text = "" then f.fault.kind else text
  named : ∀ f, s.outcome.result = .error (.fault f) → f.message ≠ ""
  wordless : ∀ m, s.outcome.result = .error (.mishap m) ↔
    ∃ (span : NNRat) (fault : StartFault), (span : Time) < spanOf timeout ∧
      course = .raises span fault ∧ fault.text = .error m
  quiet : ∀ e, s.outcome.result = .error e → s.outcome.events = shown
  late : course.IsLate (spanOf timeout) → s.outcome = ⟨shown ++ [.log .warning
    s!"router startup did not complete within {numberText timeout}s, stopped"], .ok ()⟩
  started : ∀ span : NNRat, (span : Time) < spanOf timeout → course = .returns span →
    s.outcome = ⟨shown ++ [.log .debug "router started"], .ok ()⟩
  ended : ∀ moment, s.context.done moment = true

theorem done_cancel (c : Context) (moment : Time) : c.cancel.done moment = true := rfl

theorem isolates_awaited (hw : waitMishap? timeout = none) (context : Context) {course : Course}
    (hs : r.result = course.within (spanOf timeout)) :
    Simulation.Isolates ⟨context.cancel, awaited timeout r⟩ course r.events timeout := by
  rw [awaited_of_none hw, hs]
  refine ⟨fun f => ?_, fun f hf => ?_, fun m => ?_, fun e he => ?_, fun h => ?_, fun span hlt h => ?_,
    done_cancel context⟩
  · rw [settle_fault_iff, Course.within_eq_raised_iff, StartFault.describe_ok_iff]
    constructor
    · rintro ⟨⟨span, hlt, hc⟩, hwords⟩
      exact ⟨span, hlt, hc, hwords⟩
    · rintro ⟨span, hlt, hc, hwords⟩
      exact ⟨⟨span, hlt, hc⟩, hwords⟩
  · exact StartFault.describe_ne (settle_fault_iff.mp hf).2
  · rw [settle_mishap_iff]
    constructor
    · rintro ⟨fault, hc, hm⟩
      obtain ⟨span, hlt, hc⟩ := Course.within_eq_raised_iff.mp hc
      exact ⟨span, fault, hlt, hc, hm⟩
    · rintro ⟨span, fault, hlt, hc, hm⟩
      exact ⟨fault, Course.within_eq_raised_iff.mpr ⟨span, hlt, hc⟩, hm⟩
  · show r.events ++ (settle timeout _).events = r.events
    rw [settle_events_of_error he, List.append_nil]
  · rw [Course.within_of_isLate h]
    rfl
  · rw [h, Course.within, if_pos hlt]
    rfl

theorem err_withTimeout {now span moment : Time} (h : moment < now + span) :
    (Context.withTimeout now span).err moment = none := by
  unfold Context.err Context.withTimeout
  exact if_neg (not_le.mpr h)

theorem awaited_default (hw : waitMishap? timeout = none) (context : Context) (config : ServiceConfig) :
    awaited timeout ((defaultFactory silentLogger).start context config) =
      match (Routing.start (fun _ => none) config).result with
      | .ok _ => Run.log .debug "router started"
      | .error fault => Run.fail (.fault ⟨.router fault, fault.message⟩) := by
  have hstart : (defaultFactory silentLogger).start context config =
      ⟨[], match (Routing.start (fun _ => none) config).result with
        | .ok _ => .ok ()
        | .error fault => .error (.raised (.router fault))⟩ := rfl
  rw [awaited_of_none hw, hstart]
  cases (Routing.start (fun _ => none) config).result with
  | ok engine => rfl
  | error fault =>
    simp only [settle, StartFault.describe_router]
    rfl

/-- A simulation takes a router through its start on the configuration given, with the debug route if
that or the level asks for it, and on the port asked for unless that is zero. It fails exactly with a
fault that was raised before the deadline and that there are words for: the fault's own, or the name of
its kind; what goes wrong with the words is what the simulation ends with. A router that takes longer is
passed over with one warning. With a real router that starts in time, it fails exactly if the router
does, in the same words, and of the router's records none is in the log. The router's context is done in
the end, however that comes about. All this holds for times that can be waited for; any other time is
what the simulation ends with. -/
theorem simulate_isolates (config : ServiceConfig) (debug port : Int) (now : Time) (timeout : Number) :
    let context := Context.withTimeout now (spanOf timeout)
    let changed := { config with
      debug := config.debug || decide (0 < debug)
      port := if port = 0 then config.port else port }
    (∀ m, waitMishap? timeout = some m → ∀ factory,
      (simulate factory now config debug port timeout).outcome.result = .error (.mishap m) ∧
        ∀ moment, (simulate factory now config debug port timeout).context.done moment = true) ∧
    (waitMishap? timeout = none →
      (∀ builder : Builder,
        (simulate (some (builder.seenWithin (spanOf timeout))) now config debug port timeout).Isolates
          (builder.start context changed) (builder.shown (spanOf timeout) context changed) timeout) ∧
      ∀ clock : Nat → Time, (∀ i, i < config.endpoints.length → clock i < now + spanOf timeout) →
        let startup := start (fun i => context.err (clock i)) changed
        let s := simulate none now config debug port timeout
        (∀ failure, s.outcome.result = .error failure ↔
          ∃ fault, startup.result = .error fault ∧ failure = .fault ⟨.router fault, fault.message⟩) ∧
        (∀ fault : RouterFault, fault.message ≠ "") ∧
        s.outcome.logs = (if startup.result.isOk then [(.debug, "router started")] else []) ∧
        ∀ moment, s.context.done moment = true) := by
  intro context changed
  refine ⟨fun m hm factory => ⟨?_, done_cancel _⟩, fun hw => ⟨fun builder => ?_, fun clock hclock => ?_⟩⟩
  · show (awaited timeout _).result = _
    rw [awaited, hm]
    rfl
  · rw [← builder.events_seenWithin]
    exact isolates_awaited hw context (builder.start_seenWithin _ _ _)
  · intro startup s
    have hstartup : startup = start (fun _ => none) changed :=
      start_congr fun i hi => err_withTimeout (hclock i hi)
    have hs : s.outcome = awaited timeout ((defaultFactory silentLogger).start context changed) := rfl
    rw [awaited_default hw, ← hstartup] at hs
    refine ⟨fun failure => ?_, routerFault_message_ne, ?_, done_cancel _⟩
    · rw [hs]
      cases startup.result with
      | ok engine =>
        refine iff_of_false nofun ?_
        rintro ⟨fault, h, -⟩
        cases h
      | error fault =>
        constructor
        · intro h
          cases h
          exact ⟨fault, rfl, rfl⟩
        · rintro ⟨_, h, rfl⟩
          cases h
          rfl
    · rw [hs]
      cases startup.result with
      | ok engine => rfl
      | error fault => rfl

def usersConfig : ServiceConfig := ⟨.int 3, "", 8080, ["http://a"], "", false, false,
  [⟨"/users", "GET", [⟨"/u", [], "", .members []⟩], "", .members []⟩], .members []⟩

def exitKind : FaultKind := ⟨"SystemExit", .plain, by decide⟩

/-- A router that is made in two seconds and asks for the end of the program after three more, without a
word: with six seconds the simulation fails by the name of that fault, with five it passes. A real router
starts on the configuration. -/
theorem simulate_isolates_exit :
    let builder : Builder :=
      ⟨fun _ => .returns 2, fun _ _ => .raises 3 (.foreign exitKind []), fun _ _ => []⟩
    let simulation (timeout : Number) :=
      simulate (some (builder.seenWithin (spanOf timeout))) 0 usersConfig 1 0 timeout
    (simulation (.int 6)).outcome.result = .error (.fault ⟨.foreign exitKind [], "SystemExit"⟩) ∧
      (simulation (.int 5)).outcome.logs =
        [(.warning, "router startup did not complete within 5s, stopped")] ∧
      (simulation (.int 6)).context.done 0 = true ∧
      (simulate none 0 usersConfig 1 0 (.int 5)).outcome.logs = [(.debug, "router started")] := by
  intro builder simulation
  obtain ⟨hsix, -⟩ := (simulate_isolates usersConfig 1 0 0 (.int 6)).2 (by decide +kernel)
  obtain ⟨hfive, hreal⟩ := (simulate_isolates usersConfig 1 0 0 (.int 5)).2 (by decide +kernel)
  have hraised : (simulation (.int 6)).outcome.result =
      .error (.fault ⟨.foreign exitKind [], "SystemExit"⟩) :=
    ((hsix builder).fails _).mpr ⟨2 + 3, by decide +kernel, rfl, "", rfl, rfl⟩
  have hlate : (Course.raises (2 + 3) (.foreign exitKind [])).IsLate (spanOf (.int 5)) := by
    intro span hs
    cases hs
    decide +kernel
  have hwarns : (simulation (.int 5)).outcome = _ := (hfive builder).late hlate
  have hclock : ∀ i, i < usersConfig.endpoints.length → (0 : Time) < 0 + spanOf (.int 5) :=
    fun _ _ => by decide +kernel
  obtain ⟨-, -, hlogs, -⟩ := hreal (fun _ => 0) hclock
  have hstarts : (start (fun _ => (Context.withTimeout 0 (spanOf (.int 5))).err 0)
      { usersConfig with debug := true }).result.isOk = true := by decide +kernel
  refine ⟨hraised, ?_, (hsix builder).ended 0, hlogs.trans (if_pos hstarts)⟩
  rw [hwarns]
  rfl

/-- A fault raised with an integer of one digit more than can be written. -/
def wordlessFault : StartFault :=
  .foreign ⟨"RuntimeError", .plain, by decide⟩ [.int leastLongInteger]

theorem foreignText_of_long {quotes : Bool} {arguments : List Value}
    (h : holdLongInteger arguments = true) :
    foreignText quotes arguments = .error (.longInteger longIntegerText) := if_pos h

theorem text_wordlessFault : wordlessFault.text = .error (.longInteger longIntegerText) := by
  refine foreignText_of_long ?_
  have hlong : holdsLongInteger (.int leastLongInteger) = true :=
    decide_eq_true (Int.natAbs_natCast _).ge
  rw [holdLongInteger, hlong, Bool.true_or]

/-- Such a fault ends a simulation by what goes wrong with its words, as waiting for too long a time does by
itself, and so a simulation may end otherwise than by passing or failing. -/
theorem simulate_wordless :
    let builder : Builder := ⟨fun _ => .returns 0, fun _ _ => .raises 0 wordlessFault, fun _ _ => []⟩
    let factory := builder.seenWithin (spanOf simulationTimeout)
    (simulate (some factory) 0 usersConfig 0 0 simulationTimeout).outcome.result =
        .error (.mishap (.longInteger longIntegerText)) ∧
      (simulate none 0 usersConfig 0 0 (.int 10000000000)).outcome.result =
        .error (.mishap (.overflow "timestamp too large to convert to C _PyTime_t")) ∧
      ¬ ∀ (factory : Option Factory) (config : ServiceConfig) (debug port : Int),
        (simulate factory 0 config debug port simulationTimeout).outcome.result = .ok () ∨
          ∃ f, (simulate factory 0 config debug port simulationTimeout).outcome.result =
            .error (.fault f) := by
  intro builder factory
  have hstart : (factory.start (Context.withTimeout 0 (spanOf simulationTimeout))
      (simulationConfig usersConfig 0 0)).result = .error (.raised wordlessFault) := by
    rw [Builder.start_seenWithin]
    exact Course.within_eq_raised_iff.mpr ⟨0 + 0, by decide +kernel, rfl⟩
  have hends : (simulate (some factory) 0 usersConfig 0 0 simulationTimeout).outcome.result =
      .error (.mishap (.longInteger longIntegerText)) := by
    show (awaited simulationTimeout _).result = _
    rw [awaited_of_none (by decide +kernel)]
    exact settle_mishap_iff.mpr ⟨_, hstart, text_wordlessFault⟩
  have hwait : waitMishap? (.int 10000000000) =
      some (.overflow "timestamp too large to convert to C _PyTime_t") := by decide +kernel
  refine ⟨hends, ?_, fun h => ?_⟩
  · show (awaited (.int 10000000000) _).result = _
    rw [awaited, hwait]
    rfl
  rcases h (some factory) usersConfig 0 0 with h | ⟨f, h⟩
  · rw [hends] at h
    cases h
  · rw [hends] at h
    cases h

end Preflight.Routing

import Preflight.CommandLine.Session
import Preflight.Proofs.Check.Passing
import Preflight.Proofs.Check.Printed

/-!
# The verdict of a check

What a check shows and gives is told by its stages (`Verdict`): their events in order, up to the first
one that fails (`FirstFailing`), and then the end of the report. The status of the program follows
(`verdict_of_check`).
-/

namespace Preflight.Check

open CommandLine Gateway Json Report Routing Schema Source

def eventsOf (setting : Setting) (options : Options) (path : Path) (stages : List Stage) :
    List Event :=
  stages.flatMap fun stage => (stage.alone setting options path).events

def linesOf (setting : Setting) (options : Options) (path : Path) (stages : List Stage) :
    List String :=
  stages.flatMap (·.lines setting options path)

/-- A stage is the first one that fails: those before it pass. -/
structure FirstFailing (setting : Setting) (options : Options) (path : Path) (before : List Stage)
    (stage : Stage) (failure : Failure CheckFault) : Prop where
  asked : ∃ after, stagesOf options = before ++ stage :: after
  before_pass : ∀ s ∈ before, (s.alone setting options path).result = .ok ()
  fails : (stage.alone setting options path).result = .error failure

/-- What a check comes to, told by its stages. -/
structure Verdict (world : World) (env : Environment) (screen : Screen) (options : Options)
    (path : Path) : Prop where
  run_ok_iff : (∃ config, (run (settingOf world env screen) options).result = .ok config) ↔
    Passes world env screen options path
  passed : Passes world env screen options path →
    check (settingOf world env screen) options =
        ⟨eventsOf (settingOf world env screen) options path (stagesOf options) ++
          [.print successLine], .ok 0⟩ ∧
      (check (settingOf world env screen) options).prints =
        linesOf (settingOf world env screen) options path (stagesOf options) ++ [successLine]
  not_passed : ¬ Passes world env screen options path →
    ∃ before stage failure,
      FirstFailing (settingOf world env screen) options path before stage failure
  failed : ∀ before stage fault,
    FirstFailing (settingOf world env screen) options path before stage (.fault fault) →
      ∃ line, error screen fault.headline fault.message = .ok line ∧
        check (settingOf world env screen) options =
          ⟨eventsOf (settingOf world env screen) options path (before ++ [stage]) ++
            [.log .debug s!"check failed: {fault.label}", .print line], .ok 1⟩ ∧
        (check (settingOf world env screen) options).prints =
          linesOf (settingOf world env screen) options path (before ++ [stage]) ++ [line] ∧
        successLine ∉ (check (settingOf world env screen) options).prints
  stopped : ∀ before stage m,
    FirstFailing (settingOf world env screen) options path before stage (.mishap m) →
      check (settingOf world env screen) options =
          ⟨eventsOf (settingOf world env screen) options path (before ++ [stage]), .error m⟩ ∧
        (check (settingOf world env screen) options).prints =
          linesOf (settingOf world env screen) options path (before ++ [stage]) ∧
        guarded (check (settingOf world env screen) options) =
          ⟨eventsOf (settingOf world env screen) options path (before ++ [stage]) ++
            [.log .critical m.message], .ok 1⟩

variable {world : World} {env : Environment} {screen : Screen} {options : Options} {path : Path}
  {setting : Setting} {before : List Stage} {stage : Stage} {failure : Failure CheckFault}

theorem conclude_ok {α : Type} (screen : Screen) (a : α) :
    conclude screen (.ok a : Except (Failure CheckFault) α) = ⟨[.print successLine], .ok 0⟩ := by
  unfold conclude
  rw [success_eq]
  rfl

theorem conclude_fault {α : Type} {fault : CheckFault} {line : String}
    (h : error screen fault.headline fault.message = .ok line) :
    conclude screen (.error (.fault fault) : Except (Failure CheckFault) α) =
      ⟨[.log .debug s!"check failed: {fault.label}", .print line], .ok 1⟩ := by
  unfold conclude
  dsimp only
  rw [h]
  rfl

theorem discard_ok_iff {α : Type} {x : Checking α} :
    ((fun _ => ()) <$> x).result = .ok () ↔ ∃ a, x.result = .ok a := by
  show (x >>= fun _ => pure ()).result = _ ↔ _
  rw [Run.bind_result_ok_iff]
  constructor
  · rintro ⟨a, ha, -⟩
    exact ⟨a, ha⟩
  · rintro ⟨a, ha⟩
    exact ⟨a, ha, rfl⟩

theorem discard_andThen_conclude {α : Type} (screen : Screen) (x : Checking α) :
    ((fun _ => ()) <$> x).andThen (conclude screen) = x.andThen (conclude screen) := by
  show (x >>= fun _ => pure ()).andThen (conclude screen) = _
  unfold Run.andThen
  cases h : x.result with
  | ok a =>
    rw [Run.bind_of_ok _ h, Run.pure_events, List.append_nil, conclude_ok screen a]
    dsimp only
    rw [Run.pure_result, conclude_ok screen ()]
  | error failure =>
    rw [Run.bind_of_error _ h]
    cases failure <;> rfl

theorem check_eq (hp : options.path = some path) :
    check setting options =
      (inOrder ((stagesOf options).map (·.alone setting options path))).andThen
        (conclude setting.screen) := by
  rw [← run_eq hp, discard_andThen_conclude]
  rfl

theorem inOrder_of_pass
    (h : ∀ stage ∈ stagesOf options, (stage.alone setting options path).result = .ok ()) :
    inOrder ((stagesOf options).map (·.alone setting options path)) =
      ⟨eventsOf setting options path (stagesOf options), .ok ()⟩ := by
  rw [inOrder_of_ok (List.forall_mem_map.mpr h), List.flatMap_map]
  rfl

theorem inOrder_of_firstFailing (h : FirstFailing setting options path before stage failure) :
    inOrder ((stagesOf options).map (·.alone setting options path)) =
      ⟨eventsOf setting options path (before ++ [stage]), .error failure⟩ := by
  obtain ⟨after, ha⟩ := h.asked
  rw [ha, List.map_append, List.map_cons,
    inOrder_of_error (List.forall_mem_map.mpr h.before_pass) h.fails,
    ← List.map_singleton, ← List.map_append, List.flatMap_map]
  rfl

theorem exists_first_error (stages : List Stage) :
    (∀ stage ∈ stages, (stage.alone setting options path).result = .ok ()) ∨
      ∃ before stage after failure, stages = before ++ stage :: after ∧
        (∀ s ∈ before, (s.alone setting options path).result = .ok ()) ∧
        (stage.alone setting options path).result = .error failure := by
  induction stages with
  | nil => exact .inl (List.forall_mem_nil _)
  | cons s stages ih =>
    cases hs : (s.alone setting options path).result with
    | error failure => exact .inr ⟨[], s, stages, failure, rfl, List.forall_mem_nil _, hs⟩
    | ok u =>
      rcases ih with h | ⟨before, stage, after, failure, rfl, hb, hf⟩
      · exact .inl (List.forall_mem_cons.mpr ⟨hs, h⟩)
      · exact .inr ⟨s :: before, stage, after, failure, rfl, List.forall_mem_cons.mpr ⟨hs, hb⟩, hf⟩

/-- Either all stages pass, or there is a first one that fails. -/
theorem pass_or_firstFailing :
    (∀ stage ∈ stagesOf options, (stage.alone setting options path).result = .ok ()) ∨
      ∃ before stage failure, FirstFailing setting options path before stage failure := by
  rcases exists_first_error (stagesOf options) with h | ⟨before, stage, after, failure, ha, hb, hf⟩
  · exact .inl h
  · exact .inr ⟨before, stage, failure, ⟨after, ha⟩, hb, hf⟩

/-! ### The events of a check -/

theorem check_of_pass (hp : options.path = some path)
    (h : ∀ stage ∈ stagesOf options, (stage.alone setting options path).result = .ok ()) :
    check setting options =
      ⟨eventsOf setting options path (stagesOf options) ++ [.print successLine], .ok 0⟩ := by
  rw [check_eq hp, inOrder_of_pass h]
  unfold Run.andThen
  rw [conclude_ok]

theorem check_of_fault {fault : CheckFault} {line : String} (hp : options.path = some path)
    (h : FirstFailing setting options path before stage (.fault fault))
    (hl : error setting.screen fault.headline fault.message = .ok line) :
    check setting options =
      ⟨eventsOf setting options path (before ++ [stage]) ++
        [.log .debug s!"check failed: {fault.label}", .print line], .ok 1⟩ := by
  rw [check_eq hp, inOrder_of_firstFailing h]
  unfold Run.andThen
  rw [conclude_fault hl]

theorem check_of_mishap {m : Mishap} (hp : options.path = some path)
    (h : FirstFailing setting options path before stage (.mishap m)) :
    check setting options = ⟨eventsOf setting options path (before ++ [stage]), .error m⟩ := by
  rw [check_eq hp, inOrder_of_firstFailing h]
  unfold Run.andThen conclude Run.fail
  rw [List.append_nil]

/-! ### The lines of a check -/

theorem prints_eventsOf {stages : List Stage}
    (h : ∀ s ∈ stages, (s.alone setting options path).prints = s.lines setting options path) :
    (eventsOf setting options path stages).filterMap Event.printed? =
      linesOf setting options path stages := by
  induction stages with
  | nil => rfl
  | cons s stages ih =>
    obtain ⟨hs, hl⟩ := List.forall_mem_cons.mp h
    unfold eventsOf linesOf at ih ⊢
    rw [List.flatMap_cons, List.filterMap_append, ih hl, List.flatMap_cons, ← hs]
    rfl

theorem prints_of_firstFailing
    (h : FirstFailing (settingOf world env screen) options path before stage failure) :
    ∀ s ∈ before ++ [stage], (s.alone (settingOf world env screen) options path).prints =
      s.lines (settingOf world env screen) options path := by
  obtain ⟨after, ha⟩ := h.asked
  cases before with
  | nil =>
    cases ha
    intro s hs
    rw [List.mem_singleton.mp hs]
    exact prints_alone_parse
  | cons first before =>
    have hf : Stage.parse = first := (List.cons.inj ha).1
    obtain ⟨parsed, hp⟩ :=
      exists_parsed_of_alone (h.before_pass .parse (hf ▸ List.mem_cons_self))
    exact fun s _ => prints_alone hp s

theorem successLine_notMem_linesOf (stages : List Stage) :
    successLine ∉ linesOf setting options path stages := by
  intro h
  obtain ⟨stage, -, hm⟩ := List.mem_flatMap.mp h
  exact ne_successLine_of_mem hm rfl

theorem verdict (hp : options.path = some path) : Verdict world env screen options path where
  run_ok_iff := by
    rw [← discard_ok_iff, run_eq hp, inOrder_ok_iff, passes_iff]
    exact List.forall_mem_map
  passed h := by
    have hs := passes_iff.mp h
    obtain ⟨parsed, hparsed⟩ := exists_parsed_of_alone (hs .parse List.mem_cons_self)
    have hc := check_of_pass hp hs
    refine ⟨hc, ?_⟩
    rw [hc, Run.prints, List.filterMap_append, prints_eventsOf fun s _ => prints_alone hparsed s]
    rfl
  not_passed h := pass_or_firstFailing.resolve_left fun hs => h (passes_iff.mpr hs)
  failed before stage fault h := by
    obtain ⟨line, hl, hn⟩ := exists_errorLine screen fault
    have hc := check_of_fault hp h hl
    have hlines : (check (settingOf world env screen) options).prints =
        linesOf (settingOf world env screen) options path (before ++ [stage]) ++ [line] := by
      rw [hc, Run.prints, List.filterMap_append, prints_eventsOf (prints_of_firstFailing h)]
      rfl
    refine ⟨line, hl, hc, hlines, ?_⟩
    rw [hlines, List.mem_append, List.mem_singleton]
    rintro (hm | he)
    · exact successLine_notMem_linesOf _ hm
    · exact hn he.symm
  stopped before stage m h := by
    have hc := check_of_mishap hp h
    refine ⟨hc, ?_, ?_⟩
    · rw [hc]
      exact prints_eventsOf (prints_of_firstFailing h)
    · rw [hc]
      rfl

/-! ### The status of the program -/

theorem check_result (setting : Setting) (options : Options) :
    (check setting options).result =
      match (run setting options).result with
      | .ok _ => .ok 0
      | .error (.fault _) => .ok 1
      | .error (.mishap m) => .error m := by
  unfold check Run.andThen
  dsimp only
  cases (run setting options).result with
  | ok config => rw [conclude_ok]
  | error failure =>
    cases failure with
    | fault fault =>
      obtain ⟨line, hl, -⟩ := exists_errorLine setting.screen fault
      rw [conclude_fault hl]
    | mishap m => rfl

theorem guarded_check_result (setting : Setting) (options : Options) :
    (guarded (check setting options)).result =
      match (run setting options).result with
      | .ok _ => .ok 0
      | .error _ => .ok 1 := by
  unfold guarded Run.andThen
  rw [check_result]
  cases (run setting options).result with
  | ok config => rfl
  | error failure =>
    cases failure with
    | fault fault => rfl
    | mishap m => rfl

theorem status_ofCheck (screen : Screen) (world : World) (env : Environment) (command : CheckCommand) :
    ((Session.ofCheck screen world env command).status = 0 ↔
      ∃ config, (run (settingOf world env screen) command.options).result = .ok config) ∧
    ((Session.ofCheck screen world env command).status = 0 ∨
      (Session.ofCheck screen world env command).status = 1) := by
  have hg := guarded_check_result (settingOf world env screen) command.options
  unfold Session.ofCheck Session.ofRun
  dsimp only
  rw [hg]
  cases (run (settingOf world env screen) command.options).result with
  | ok config => exact ⟨⟨fun _ => ⟨config, rfl⟩, fun _ => rfl⟩, .inl rfl⟩
  | error failure =>
    refine ⟨⟨fun h => ?_, ?_⟩, .inr rfl⟩
    · cases h
    · rintro ⟨config, h⟩
      cases h

/-- A check passes exactly if there is a file to check and its stages pass. -/
theorem run_ok_iff (world : World) (env : Environment) (screen : Screen) (options : Options) :
    (∃ config, (run (settingOf world env screen) options).result = .ok config) ↔
      ∃ path, options.path = some path ∧ Passes world env screen options path := by
  cases hp : options.path with
  | none =>
    unfold run
    rw [hp]
    constructor
    · rintro ⟨config, h⟩
      cases h
    · rintro ⟨path, h, -⟩
      cases h
  | some path =>
    rw [(verdict hp).run_ok_iff]
    constructor
    · exact fun h => ⟨path, rfl, h⟩
    · rintro ⟨path', h, hpass⟩
      cases h
      exact hpass

/-- What each check of a file comes to; and the program, its arguments accepted as a check, ends with
status 0 when there is a file and the check passes, and with status 1 otherwise. -/
theorem verdict_of_check (world : World) (env : Environment) :
    (∀ screen options path, options.path = some path → Verdict world env screen options path) ∧
    ∀ screen arguments command, Invocation.read arguments = .ok (.check command) →
      (Session.ofArguments screen world env arguments).status = 0 ∧
          (∃ path, command.options.path = some path ∧
            Passes world env screen command.options path) ∨
        (Session.ofArguments screen world env arguments).status = 1 ∧
          ¬ ∃ path, command.options.path = some path ∧
            Passes world env screen command.options path := by
  refine ⟨fun screen options path hp => verdict hp, fun screen arguments command hr => ?_⟩
  have hs : Session.ofArguments screen world env arguments = Session.ofCheck screen world env command := by
    unfold Session.ofArguments
    rw [hr]
  have hok := run_ok_iff world env screen command.options
  obtain ⟨hz, h | h⟩ := status_ofCheck screen world env command
  · exact .inl ⟨hs ▸ h, hok.mp (hz.mp h)⟩
  · refine .inr ⟨hs ▸ h, fun hpass => ?_⟩
    rw [hz.mpr (hok.mpr hpass)] at h
    cases h

def usersText : String :=
  "\x7b\"version\": 3, \"host\": [\"http://users:80\"], \"endpoints\": [\x7b" ++
    "\"endpoint\": \"/users/\x7bid\x7d\", " ++
    "\"backend\": [\x7b\"url_pattern\": \"/u/\x7bid\x7d\"\x7d]\x7d]\x7d"

/-- A world in which every file holds that text and no server answers. -/
def usersWorld : World :=
  ⟨FileTree.place ⟨[], []⟩, fun _ => .ok (Text.utf8 usersText.toList), fun _ => .failed "offline"⟩

def routesOptions : Options := { path := some (Path.ofString "gateway.json"), testRoutes := true }

theorem verdict_of_users_check :
    Invocation.read ["check", "-c", "gateway.json", "-t"] =
        .ok (.check { options := routesOptions }) ∧
      (Session.ofArguments plainScreen usersWorld [] ["check", "-c", "gateway.json", "-t"]).status = 0 := by
  have hv := (verdict_of_check usersWorld []).1 plainScreen routesOptions _ rfl
  have hr : (run (settingOf usersWorld [] plainScreen) routesOptions).result.toOption.isSome :=
    by decide +kernel
  have hok : ∃ config,
      (run (settingOf usersWorld [] plainScreen) routesOptions).result = .ok config := by
    cases h : (run (settingOf usersWorld [] plainScreen) routesOptions).result with
    | ok config => exact ⟨config, rfl⟩
    | error failure =>
      rw [h] at hr
      cases hr
  have hc : Invocation.read ["check", "-c", "gateway.json", "-t"] =
      .ok (.check { options := routesOptions }) := by rfl
  refine ⟨hc, ?_⟩
  rcases (verdict_of_check usersWorld []).2 plainScreen _ _ hc with h | h
  · exact h.1
  · exact absurd ⟨_, rfl, hv.run_ok_iff.mp hok⟩ h.2

end Preflight.Check

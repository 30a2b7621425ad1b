import Preflight.Proofs.Check.Order

/-!
# What makes a check pass

A check asks for up to four things: that the file is parsed, that the value in it passes the schema,
that its configuration can be shown, and that a router starts with it (`Passes`). Each of them is what
one stage needs to pass alone, so a check passes when all the stages do that it is asked for
(`passes_iff`).
-/

namespace Preflight.Check

open Gateway Json Report Routing Schema Source

/-- The schema that the options ask for is found, loaded and compiled, and allows a value. -/
def LintPasses (options : Options) (world : World) (v : Value) : Prop :=
  ∃ source uri document schema,
    resolveSource options.schema options.online options.embedded options.version = .ok source ∧
    (loadSchema world defaultLoader source).result = .ok (uri, document) ∧
    (compile uri document).result = .ok schema ∧
    (schema.validate (fetchWith world (some defaultLoader)) v).result = .ok ()

def RoutesPass (options : Options) (config : ServiceConfig) : Prop :=
  (simulate none 0 config options.debug options.port simulationTimeout).outcome.result = .ok ()

/-- What makes a check pass: the file is parsed, and whatever else is asked for goes well with the
value and the configuration that were read. -/
def Passes (world : World) (env : Environment) (screen : Screen) (options : Options) (path : Path) :
    Prop :=
  ∃ config rendered v,
    (parseFile world.read env path).result = .ok (config, rendered) ∧
    decodeText rendered = .ok v ∧ serviceConfig v = .ok config ∧
    (options.lint = true → LintPasses options world v) ∧
    (0 < options.debug → ∃ shown, dump screen options.debug dumpLead config = .ok shown) ∧
    (options.testRoutes = true → RoutesPass options config)

variable {world : World} {env : Environment} {screen : Screen} {options : Options} {path : Path}
  {parsed : Parsed}

/-! ### Each stage alone -/

theorem chosenSchema_ok_iff {schema : Compiled} :
    (chosenSchema screen options world).result = .ok schema ↔ ∃ source uri document,
      resolveSource options.schema options.online options.embedded options.version = .ok source ∧
      (loadSchema world defaultLoader source).result = .ok (uri, document) ∧
      (compile uri document).result = .ok schema := by
  unfold chosenSchema
  constructor
  · intro h
    obtain ⟨source, hs, h⟩ := Run.bind_result_ok_iff.mp h
    obtain ⟨_, -, h⟩ := Run.bind_result_ok_iff.mp h
    obtain ⟨⟨uri, document⟩, hl, h⟩ := Run.bind_result_ok_iff.mp h
    exact ⟨source, uri, document, orFault_ok_iff.mp hs, staged_ok_iff.mp hl, staged_ok_iff.mp h⟩
  · rintro ⟨source, uri, document, hs, hl, hc⟩
    refine Run.bind_result_ok_iff.mpr ⟨source, orFault_ok_iff.mpr hs, ?_⟩
    refine Run.bind_result_ok_iff.mpr ⟨(), by rw [tell_text], ?_⟩
    exact Run.bind_result_ok_iff.mpr ⟨(uri, document), staged_ok_iff.mpr hl, staged_ok_iff.mpr hc⟩

theorem lintValue_ok_iff {v : Value} :
    (lintValue screen options world v).result = .ok () ↔ LintPasses options world v := by
  unfold lintValue LintPasses
  constructor
  · intro h
    obtain ⟨schema, hc, hv⟩ := Run.bind_result_ok_iff.mp h
    obtain ⟨source, uri, document, hs, hl, hc⟩ := chosenSchema_ok_iff.mp hc
    exact ⟨source, uri, document, schema, hs, hl, hc, staged_ok_iff.mp hv⟩
  · rintro ⟨source, uri, document, schema, hs, hl, hc, hv⟩
    exact Run.bind_result_ok_iff.mpr ⟨schema,
      chosenSchema_ok_iff.mpr ⟨source, uri, document, hs, hl, hc⟩, staged_ok_iff.mpr hv⟩

theorem dumpStage_ok_iff {config : ServiceConfig} :
    (dumpStage screen options config).result = .ok () ↔
      ∃ shown, dump screen options.debug dumpLead config = .ok shown := by
  unfold dumpStage
  rw [Run.bind_result_ok_iff]
  constructor
  · rintro ⟨shown, hd, -⟩
    exact ⟨shown, staged_ok_iff.mp hd⟩
  · rintro ⟨shown, hd⟩
    exact ⟨shown, staged_ok_iff.mpr hd, rfl⟩

theorem routesStage_ok_iff {config : ServiceConfig} :
    (routesStage screen options config).result = .ok () ↔ RoutesPass options config := by
  unfold routesStage RoutesPass
  rw [tell_ok message_testing, Run.bind_of_ok _ rfl]
  exact mapError_ok_iff

theorem mem_stagesOf {stage : Stage} : stage ∈ stagesOf options ↔ stage.asked options = true := by
  unfold stagesOf
  rw [List.mem_cons, List.mem_filter]
  cases stage with
  | parse => exact ⟨fun _ => rfl, fun _ => .inl rfl⟩
  | _ => simp [Stage.later]

theorem forall_asked_iff {p : Stage → Prop} :
    (∀ stage ∈ stagesOf options, p stage) ↔
      p .parse ∧ (options.lint = true → p .lint) ∧ (0 < options.debug → p .dump) ∧
        (options.testRoutes = true → p .routes) := by
  simp only [mem_stagesOf]
  constructor
  · intro h
    exact ⟨h .parse rfl, h .lint, fun hd => h .dump (decide_eq_true hd), h .routes⟩
  · rintro ⟨hp, hl, hd, hr⟩ stage hs
    cases stage with
    | parse => exact hp
    | lint => exact hl hs
    | dump => exact hd (of_decide_eq_true hs)
    | routes => exact hr hs

section parsed

variable {config : ServiceConfig} {rendered : List Char} {v : Value}

theorem parseStage_of_parseFile (h : (parseFile world.read env path).result = .ok (config, rendered)) :
    (parseStage (settingOf world env screen) path).result =
      .ok ⟨config, some (Text.utf8 rendered), world⟩ :=
  parseStage_ok_iff.mpr (keepingParser_ok_iff.mpr ⟨config, rendered, h, rfl⟩)

theorem alone_lint_ok_iff (h : (parseFile world.read env path).result = .ok (config, rendered))
    (hd : decodeText rendered = .ok v) (hs : serviceConfig v = .ok config) :
    (Stage.lint.alone (settingOf world env screen) options path).result = .ok () ↔
      LintPasses options world v := by
  obtain ⟨members, rfl⟩ := exists_members hs
  rw [Stage.alone, onParsed_eq (parseStage_of_parseFile h), lintStage_eq rfl (decodeBytes_utf8 hd)]
  exact lintValue_ok_iff

theorem alone_dump_ok_iff (h : (parseFile world.read env path).result = .ok (config, rendered)) :
    (Stage.dump.alone (settingOf world env screen) options path).result = .ok () ↔
      ∃ shown, dump screen options.debug dumpLead config = .ok shown := by
  rw [Stage.alone, onParsed_eq (parseStage_of_parseFile h)]
  exact dumpStage_ok_iff

theorem alone_routes_ok_iff (h : (parseFile world.read env path).result = .ok (config, rendered)) :
    (Stage.routes.alone (settingOf world env screen) options path).result = .ok () ↔
      RoutesPass options config := by
  rw [Stage.alone, onParsed_eq (parseStage_of_parseFile h)]
  exact routesStage_ok_iff

end parsed

theorem exists_parsed_of_alone
    (h : (Stage.parse.alone (settingOf world env screen) options path).result = .ok ()) :
    ∃ parsed, (parseStage (settingOf world env screen) path).result = .ok parsed := by
  cases hp : (parseStage (settingOf world env screen) path).result with
  | ok parsed => exact ⟨parsed, rfl⟩
  | error failure =>
    rw [alone_parse_error hp] at h
    cases h

/-- A check passes when each stage that is asked for passes alone. -/
theorem passes_iff :
    Passes world env screen options path ↔ ∀ stage ∈ stagesOf options,
      (stage.alone (settingOf world env screen) options path).result = .ok () := by
  rw [forall_asked_iff]
  constructor
  · rintro ⟨config, rendered, v, hf, hv, hs, hl, hd, hr⟩
    refine ⟨?_, fun h => ?_, fun h => ?_, fun h => ?_⟩
    · rw [alone_parse_ok (parseStage_of_parseFile hf)]
    · exact (alone_lint_ok_iff hf hv hs).mpr (hl h)
    · exact (alone_dump_ok_iff hf).mpr (hd h)
    · exact (alone_routes_ok_iff hf).mpr (hr h)
  · rintro ⟨hp, hl, hd, hr⟩
    obtain ⟨parsed, hp⟩ := exists_parsed_of_alone hp
    obtain ⟨config, rendered, hf, -⟩ := keepingParser_ok_iff.mp (parseStage_ok_iff.mp hp)
    obtain ⟨text, -, -, v, hv, hs⟩ := parseFile_ok_iff.mp hf
    exact ⟨config, rendered, v, hf, hv, hs, fun h => (alone_lint_ok_iff hf hv hs).mp (hl h),
      fun h => (alone_dump_ok_iff hf).mp (hd h), fun h => (alone_routes_ok_iff hf).mp (hr h)⟩

end Preflight.Check

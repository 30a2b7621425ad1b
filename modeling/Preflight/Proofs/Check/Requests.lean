import Preflight.Proofs.Check.Verdict
import Preflight.Proofs.Gateway.BundledText
import Preflight.Proofs.Source.Hosted

/-!
# The requests of a check

Only the lint stage makes requests, and only once it has a value and a schema to look for (`Lints`).
It asks for the schema first, and for what its references name while the value is validated
(`requests_lintValue`). Whatever the run, each request is handled as it should be, nothing is asked
for with the bundled schema, and after the hosted schema nothing if it could not be had
(`check_fetches`).
-/

namespace Preflight.Check

open CommandLine Gateway Json Report Routing Schema Source

/-- A check whose lint stage comes to a value: it is asked for, and the source that parsing left is
decoded. -/
structure Lints (world : World) (env : Environment) (options : Options) (v : Value) : Prop where
  asked : options.lint = true
  decoded : ∃ path parsed bytes, options.path = some path ∧
    (keepingParser env world path).result = .ok parsed ∧ parsed.source = some bytes ∧
      decodeBytes bytes = .ok v

/-- The source that options resolve to, or why they do not. -/
abbrev Options.source (options : Options) : Except SourceConflict SchemaSource :=
  resolveSource options.schema options.online options.embedded options.version

/-- What is true of the requests of a check. -/
structure Fetches (world : World) (env : Environment) (options : Options)
    (requests : List Request) : Prop where
  linting : requests ≠ [] →
    (∃ v, Lints world env options v) ∧ ¬ (options.schema ≠ "" ∧ options.online = true)
  bundled : options.source = .ok (.embedded bundledText) → requests = []
  hosted : ∀ location, options.source = .ok (.online location) → ∃ minor,
    ReleaseLine options.version.toList minor.toList ∧
    location = "https://www.krakend.io/schema/v" ++ minor ++ "/krakend.json" ∧
    ((∃ v, Lints world env options v) → ∃ r more, requests = r :: more ∧ r.url = location ∧
      (more ≠ [] → ∃ body document,
        world.fetch location = .response 200 body ∧ decodeBytes body = .ok document))
  handled : ∀ r ∈ requests, r.timeout = .int 10 ∧
    (r.closed = true ↔ ∃ status body, world.fetch r.url = .response status body) ∧
    (r.read = true ↔ ∃ body, world.fetch r.url = .response 200 body)

variable {world : World} {env : Environment} {screen : Screen} {options : Options} {path : Path}
  {parsed : Parsed} {source : SchemaSource} {v : Value}

/-! ### Stages without requests -/

theorem announce_offline (printed : Except (Failure MarkupFault) String) :
    (announce printed).Shows Event.Offline := by
  cases printed with
  | ok text => exact Run.shows_emit rfl
  | error failure => cases failure <;> exact Run.shows_fail _

theorem tell_offline (printed : Except (Failure MarkupFault) String) :
    (tell printed).Shows Event.Offline :=
  Run.shows_mapError (announce_offline printed)

theorem keepingParser_offline (env : Environment) (world : World) (path : Path) :
    (keepingParser env world path).Shows Event.Offline :=
  shows_keepingParser (fun _ _ => rfl) (fun _ => rfl) env world path

theorem parseStage_offline (path : Path) :
    (parseStage (settingOf world env screen) path).Shows Event.Offline :=
  Run.shows_bind (tell_offline _) fun _ => Run.shows_mapError (keepingParser_offline env world path)

theorem dumpStage_offline (config : ServiceConfig) :
    (dumpStage screen options config).Shows Event.Offline :=
  Run.shows_bind (Run.shows_ofExcept _) fun _ => Run.shows_emit rfl

theorem routesStage_offline (config : ServiceConfig) :
    (routesStage screen options config).Shows Event.Offline :=
  Run.shows_bind (tell_offline _) fun _ => Run.shows_mapError (shows_simulate (fun _ _ => rfl) _ _ _ _ _)

theorem stageIf_offline {wanted : Bool} {stage : Checking Unit} (h : stage.Shows Event.Offline) :
    (stageIf wanted stage).Shows Event.Offline := by
  cases wanted with
  | false => exact Run.shows_pure ()
  | true => exact h

theorem conclude_offline {α : Type} (r : Except (Failure CheckFault) α) :
    (conclude screen r).Shows Event.Offline := by
  unfold conclude
  split
  · exact Run.shows_bind (announce_offline _) fun _ => Run.shows_pure _
  · refine Run.shows_bind (Run.shows_emit rfl) fun _ => ?_
    exact Run.shows_bind (announce_offline _) fun _ => Run.shows_pure _
  · exact Run.shows_fail _

/-! ### From the check to the lint stage -/

theorem requests_check (setting : Setting) (options : Options) :
    (check setting options).requests = (run setting options).requests :=
  Run.select_andThen conclude_offline

theorem requests_examine (parsed : Parsed) :
    (examine (settingOf world env screen) options path parsed).requests =
      (stageIf options.lint (lintStage screen options path parsed)).requests := by
  unfold examine
  rw [Run.requests_eq, Run.select_bind_left]
  · rfl
  · intro _
    exact Run.shows_bind (stageIf_offline (dumpStage_offline _)) fun _ =>
      stageIf_offline (routesStage_offline _)

theorem requests_run (hp : options.path = some path)
    (h : (keepingParser env world path).result = .ok parsed) :
    (run (settingOf world env screen) options).requests =
      (stageIf options.lint (lintStage screen options path parsed)).requests := by
  unfold run
  rw [hp]
  dsimp only
  rw [Run.requests_eq, Run.select_bind_of_ok (parseStage_ok_iff.mpr h),
    Run.select_eq_nil (parseStage_offline path), List.nil_append,
    Run.select_bind_left fun _ => Run.shows_pure _]
  exact requests_examine parsed

/-- A check that comes to a value makes the requests that finding the schema and validating the value
make. -/
theorem requests_of_lints (h : Lints world env options v) :
    (check (settingOf world env screen) options).requests = (lintValue screen options world v).requests := by
  obtain ⟨path, parsed, bytes, hp, hparsed, hs, hd⟩ := h.decoded
  rw [requests_check, requests_run hp hparsed, h.asked]
  show (lintStage screen options path parsed).requests = _
  rw [lintStage_eq hs hd, (keepingParser_remembers hparsed .new).1]
  rfl

/-- A check that comes to no value makes no requests. -/
theorem requests_of_not_lints (h : ∀ v, ¬ Lints world env options v) :
    (check (settingOf world env screen) options).requests = [] := by
  rw [requests_check]
  cases hp : options.path with
  | none =>
    unfold run
    rw [hp]
    rfl
  | some path =>
    cases hparse : (keepingParser env world path).result with
    | error failure =>
      have hstage : (parseStage (settingOf world env screen) path).result =
          .error (failure.map .parse) := by
        rw [parseStage_eq]
        exact mapError_error_iff.mpr ⟨failure, hparse, rfl⟩
      unfold run
      rw [hp]
      dsimp only
      rw [Run.requests_eq, Run.select_bind_of_error hstage]
      exact Run.select_eq_nil (parseStage_offline path)
    | ok parsed =>
      obtain ⟨bytes, v, hs, hd, -⟩ := keepingParser_source hparse
      have hlint : options.lint = false :=
        Bool.eq_false_iff.mpr fun hl => h v ⟨hl, path, parsed, bytes, hp, hparse, hs, hd⟩
      rw [requests_run hp hparse, hlint]
      rfl

/-! ### From the lint stage to its loads -/

theorem requests_chosenSchema (hs : options.source = .ok source) :
    (chosenSchema screen options world).requests = (loadSchema world defaultLoader source).requests := by
  unfold chosenSchema
  rw [Run.requests_eq, Run.select_bind_of_ok (orFault_ok_iff.mpr hs), tell_text,
    Run.select_bind_of_ok rfl]
  exact Run.select_bind_left fun _ => Run.shows_mapError (shows_compile (fun _ _ => rfl) _ _)

/-- A lint stage asks for its schema, and for more only once it has compiled it. -/
theorem requests_lintValue (hs : options.source = .ok source) (world : World) (v : Value) :
    ∃ more, (lintValue screen options world v).requests =
      (loadSchema world defaultLoader source).requests ++ more ∧
      (more ≠ [] → ∃ uri document schema,
        (loadSchema world defaultLoader source).result = .ok (uri, document) ∧
        (compile uri document).result = .ok schema ∧
        more = (schema.validate (fetchWith world (some defaultLoader)) v).requests) := by
  unfold lintValue
  rw [← requests_chosenSchema hs]
  cases hc : (chosenSchema screen options world).result with
  | error failure =>
    exact ⟨[], by rw [Run.requests_eq, Run.select_bind_of_error hc, List.append_nil]; rfl,
      fun h => absurd rfl h⟩
  | ok schema =>
    obtain ⟨source', uri, document, hs', hl, hcompile⟩ := chosenSchema_ok_iff.mp hc
    cases hs.symm.trans hs'
    exact ⟨_, Run.select_bind_of_ok hc, fun _ => ⟨uri, document, schema, hl, hcompile, rfl⟩⟩

theorem requests_lintValue_conflict {conflict : SourceConflict}
    (hs : options.source = .error conflict) : (lintValue screen options world v).requests = [] := by
  unfold lintValue chosenSchema
  rw [show resolveSource options.schema options.online options.embedded options.version =
    .error conflict from hs]
  rfl

/-! ### Each request -/

theorem handled_of_shows {ε α : Type} {loader : Loader} {x : Run ε α}
    (h : x.Shows (Loads world loader)) : ∀ r ∈ x.requests, Handled world loader r := by
  intro r hr
  obtain ⟨e, he, hg⟩ := List.mem_filterMap.mp hr
  cases h e he with
  | request hr =>
    cases hg
    exact hr
  | _ => cases hg

theorem shows_fetchWith (world : World) (loader : Loader) (url : String) :
    (fetchWith world (some loader) url).Shows (Loads world loader) := shows_load world loader url

theorem timeout_of_lookup {scheme : String} {timeout : Number}
    (h : defaultLoader.lookup scheme = some (.http timeout)) : timeout = .int 10 := by
  obtain ⟨before, after, he, -⟩ := List.lookup_eq_some_iff.mp h
  have hm : (scheme, Transport.http timeout) ∈ defaultLoader := by
    rw [he]
    exact List.mem_append_right _ List.mem_cons_self
  simp only [defaultLoader, List.mem_cons, Prod.mk.injEq, Transport.http.injEq, List.not_mem_nil,
    reduceCtorEq, and_false, or_false, false_or] at hm
  rcases hm with ⟨-, rfl⟩ | ⟨-, rfl⟩ <;> rfl

theorem handled_of_lintValue : ∀ r ∈ (lintValue screen options world v).requests,
    Handled world defaultLoader r := by
  cases hs : options.source with
  | error conflict =>
    rw [requests_lintValue_conflict hs]
    exact List.forall_mem_nil _
  | ok source =>
    obtain ⟨more, hr, hmore⟩ := requests_lintValue hs world v
    rw [hr]
    refine List.forall_mem_append.mpr ⟨handled_of_shows (shows_loadSchema world _ source), ?_⟩
    by_cases hnil : more = []
    · rw [hnil]
      exact List.forall_mem_nil _
    · obtain ⟨uri, document, schema, -, -, rfl⟩ := hmore hnil
      exact handled_of_shows (schema.shows_validate (shows_fetchWith world defaultLoader) v)

/-! ### The bundled and the hosted schema -/

theorem source_conflict (h : options.schema ≠ "" ∧ options.online = true) :
    options.source = .error .schemaAndOnline := by
  unfold Options.source resolveSource
  rw [if_pos (by simp [h.1, h.2])]

theorem location_of_online {location : String} (h : options.source = .ok (.online location)) :
    location = onlineSchemaUrl options.version := by
  unfold Options.source resolveSource at h
  split at h
  · cases h
  · split at h
    · split at h
      · cases h
        rfl
      · split at h <;> cases h
    · cases h
      rfl

theorem requests_of_bundled (hs : options.source = .ok (.embedded bundledText)) :
    (lintValue screen options world v).requests = [] := by
  obtain ⟨document, hd, htidy⟩ := exists_tidy_bundledText
  have hload : loadSchema world defaultLoader (.embedded bundledText) =
      pure (embeddedUri, document) := by
    unfold loadSchema
    dsimp only
    rw [hd]
    rfl
  obtain ⟨more, hr, hmore⟩ := requests_lintValue hs world v
  rw [hr, hload]
  show more = []
  by_contra hnil
  obtain ⟨uri, document', schema, hl, hc, rfl⟩ := hmore hnil
  rw [hload] at hl
  cases hl
  refine hnil ?_
  rw [Run.requests, validate_events, findings_events (selfContained_of_isTidy htidy)
    (compile_ok_iff.mp hc)]
  rfl

theorem requests_of_online {location : String} (hs : options.source = .ok (.online location)) :
    ∃ r more, (lintValue screen options world v).requests = r :: more ∧ r.url = location ∧
      (more ≠ [] → ∃ body document,
        world.fetch location = .response 200 body ∧ decodeBytes body = .ok document) := by
  obtain rfl := location_of_online hs
  obtain ⟨r, hload, hu⟩ := requests_loadSchema_online world options.version
  obtain ⟨more, hr, hmore⟩ := requests_lintValue hs world v
  rw [hload] at hr
  refine ⟨r, more, hr, hu, fun hnil => ?_⟩
  obtain ⟨uri, document, schema, hl, -, -⟩ := hmore hnil
  obtain ⟨body, hf, hd⟩ := loadSchema_online_ok hl
  exact ⟨body, document, hf, hd⟩

/-! ### Checks and sessions -/

theorem fetches_of_check (world : World) (env : Environment) (screen : Screen) (options : Options) :
    Fetches world env options (check (settingOf world env screen) options).requests := by
  by_cases hlints : ∃ v, Lints world env options v
  · obtain ⟨v, hv⟩ := hlints
    rw [requests_of_lints hv]
    refine ⟨fun hr => ⟨⟨v, hv⟩, fun hconflict => hr ?_⟩, requests_of_bundled, ?_, ?_⟩
    · exact requests_lintValue_conflict (source_conflict hconflict)
    · intro location hs
      refine ⟨versionMinor options.version, releaseLine_versionMinor _, location_of_online hs, ?_⟩
      exact fun _ => requests_of_online hs
    · intro r hr
      have hh := handled_of_lintValue r hr
      obtain ⟨scheme, ht⟩ := hh.timed
      exact ⟨timeout_of_lookup ht, hh.closed, hh.read⟩
  · rw [requests_of_not_lints fun v hv => hlints ⟨v, hv⟩]
    refine ⟨fun hr => absurd rfl hr, fun _ => rfl, fun location hs => ?_, List.forall_mem_nil _⟩
    exact ⟨versionMinor options.version, releaseLine_versionMinor _, location_of_online hs,
      fun h => absurd h hlints⟩

theorem requests_ofCheck (screen : Screen) (world : World) (env : Environment) (command : CheckCommand) :
    (Session.ofCheck screen world env command).requests =
      (check (settingOf world env screen) command.options).requests := by
  refine Run.select_andThen fun r => ?_
  cases r with
  | ok status => exact Run.shows_pure _
  | error m => exact Run.shows_bind (Run.shows_emit rfl) fun _ => Run.shows_pure _

/-- A check asks for something only to lint a value that was parsed, for nothing with the bundled
schema, and for the schema of the release line first if it is to use the hosted one. Each request has
the same timeout, its response is closed, and its body is read exactly if the status is 200. So it is
with a session whose arguments ask for a check; the other sessions ask for nothing. -/
theorem check_fetches (world : World) (env : Environment) :
    (∀ screen options,
      Fetches world env options (check (settingOf world env screen) options).requests) ∧
    ∀ screen arguments,
      (∃ command, Invocation.read arguments = .ok (.check command) ∧
        Fetches world env command.options (Session.ofArguments screen world env arguments).requests) ∨
      ((∀ command, Invocation.read arguments ≠ .ok (.check command)) ∧
        (Session.ofArguments screen world env arguments).requests = []) := by
  refine ⟨fetches_of_check world env, fun screen arguments => ?_⟩
  unfold Session.ofArguments
  cases Invocation.read arguments with
  | error error =>
    refine .inr ⟨fun command h => ?_, rfl⟩
    cases h
  | ok invocation =>
    cases invocation with
    | check command =>
      refine .inl ⟨command, rfl, ?_⟩
      rw [requests_ofCheck]
      exact fetches_of_check world env screen command.options
    | _ =>
      refine .inr ⟨fun command h => ?_, rfl⟩
      cases h

end Preflight.Check

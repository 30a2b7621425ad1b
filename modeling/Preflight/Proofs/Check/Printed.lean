import Preflight.Proofs.Check.Order
import Preflight.Proofs.Check.ReportText
import Preflight.Proofs.Report.Opening
import Preflight.Proofs.Routing.Isolation
import Preflight.Proofs.Schema.WalkEffects

/-!
# What the stages print

Parsing, loading and validating print nothing, so a stage prints what it announces, and the dump if it
is one (`prints_alone`). None of these lines, and no error, is the one that reports a success
(`ne_successLine_of_mem`, `exists_errorLine`).
-/

namespace Preflight

namespace Run

variable {ε ε' α β : Type}

theorem prints_print (text : String) (x : Run ε α) :
    (Run.mk (.print text :: x.events) x.result).prints = text :: x.prints := rfl

theorem prints_bind_of_ok {x : Run ε α} {a : α} {f : α → Run ε β} (h : x.result = .ok a) :
    (x >>= f).prints = x.prints ++ (f a).prints := select_bind_of_ok h

theorem prints_bind_silent {x : Run ε α} {f : α → Run ε β}
    (hf : ∀ a, (f a).Shows Event.Silent) : (x >>= f).prints = x.prints := select_bind_left hf

end Run

namespace Gateway

variable {p : Event → Prop}

theorem shows_parseFile (hl : ∀ level message, p (.log level message)) (hr : ∀ path, p (.read path))
    (read : Path → Except Source.FileFault (List UInt8)) (env : Environment) (path : Path) :
    (parseFile read env path).Shows p := by
  refine Run.shows_bind (Run.shows_emit (hr _)) fun _ => ?_
  refine Run.shows_bind (Run.shows_ofExcept _) fun parsed => ?_
  exact Run.shows_bind (Run.shows_emit (hl _ _)) fun _ => Run.shows_pure _

end Gateway

theorem Routing.shows_simulate {p : Event → Prop} (hl : ∀ level message, p (.log level message))
    (now : Routing.Time) (config : Gateway.ServiceConfig) (debug port : Int) (timeout : Json.Number) :
    (Routing.simulate none now config debug port timeout).outcome.Shows p := by
  unfold Routing.simulate
  dsimp only [Option.getD_none]
  cases hw : Routing.waitMishap? timeout with
  | some m =>
    rw [Routing.awaited, hw]
    exact Run.shows_fail _
  | none =>
    rw [Routing.awaited_default hw]
    split
    · exact Run.shows_emit (hl _ _)
    · exact Run.shows_fail _

namespace Check

open Gateway Json Report Routing Schema Source

def schemaLine (screen : Screen) (source : SchemaSource) : String :=
  textLine screen s!"Using schema {source.describe}"

def successLine : String := "Syntax OK!\n"

theorem success_eq (screen : Screen) : success screen "Syntax OK!" = .ok successLine :=
  success_of_legible (s := "Syntax OK!") (Legible.lines (by decide +kernel)
    (codeless_of_notMem (by decide +kernel)))

/-- The dump of what parsing leaves, if both come about. -/
def dumpLines (setting : Setting) (options : Options) :
    Except (Failure CheckFault) Parsed → List String
  | .ok parsed => (dump setting.screen options.debug dumpLead parsed.config).toOption.toList
  | .error _ => []

/-- What a stage prints: its announcements, or the dump if there is one. -/
def Stage.lines (setting : Setting) (options : Options) (path : Path) : Stage → List String
  | .parse => [parsingLine setting.screen path]
  | .lint => lintingLine ::
      (resolveSource options.schema options.online options.embedded
        options.version).toOption.toList.map (schemaLine setting.screen)
  | .dump => dumpLines setting options (parseStage setting path).result
  | .routes => [testingLine]

variable {world : World} {env : Environment} {screen : Screen} {options : Options} {path : Path}
  {setting : Setting} {parsed : Parsed}

/-! ### The lines of each stage -/

theorem shows_keepingParser {p : Event → Prop} (hl : ∀ level message, p (.log level message))
    (hr : ∀ path, p (.read path)) (env : Environment) (world : World) (path : Path) :
    (keepingParser env world path).Shows p :=
  Run.shows_bind (shows_parseFile hl hr _ _ _) fun _ => Run.shows_pure _

theorem prints_parseStage :
    (parseStage (settingOf world env screen) path).prints = [parsingLine screen path] := by
  have hs : (staged .parse (keepingParser env world path)).Shows Event.Silent :=
    Run.shows_mapError (shows_keepingParser (fun _ _ => rfl) (fun _ => rfl) env world path)
  rw [parseStage_eq, Run.prints_print, Run.prints_eq_nil hs]

theorem prints_chosenSchema :
    (chosenSchema screen options world).prints =
      (resolveSource options.schema options.online options.embedded
        options.version).toOption.toList.map (schemaLine screen) := by
  unfold chosenSchema
  cases h : resolveSource options.schema options.online options.embedded options.version with
  | error conflict => rfl
  | ok source =>
    rw [Run.prints_bind_of_ok (show (orFault _ _).result = .ok source from rfl), tell_text,
      Run.prints_bind_of_ok rfl]
    have hs : (staged .load (loadSchema world defaultLoader source) >>= fun loaded =>
        staged (fun fault => .lint (.schema fault)) (compile loaded.1 loaded.2) :
          Checking Compiled).Shows Event.Silent :=
      Run.shows_bind (Run.shows_mapError (loadSchema_silent world _ _)) fun _ =>
        Run.shows_mapError (compile_silent _ _)
    rw [Run.prints_eq_nil hs]
    rfl

theorem prints_lintValue (v : Value) :
    (lintValue screen options world v).prints = (chosenSchema screen options world).prints :=
  Run.prints_bind_silent fun schema =>
    Run.shows_mapError (schema.shows_validate (fetchWith_silent world _) v)

theorem prints_lintStage (h : (keepingParser env world path).result = .ok parsed) :
    (lintStage setting.screen options path parsed).prints = Stage.lint.lines setting options path := by
  obtain ⟨bytes, v, hs, hd, -⟩ := keepingParser_source h
  rw [lintStage_eq hs hd, Run.prints_print, prints_lintValue, (keepingParser_remembers h .new).1,
    prints_chosenSchema]
  rfl

theorem prints_dumpStage (config : ServiceConfig) :
    (dumpStage screen options config).prints =
      (dump screen options.debug dumpLead config).toOption.toList := by
  unfold dumpStage
  cases dump screen options.debug dumpLead config with
  | error fault => rfl
  | ok text => rfl

theorem prints_routesStage (config : ServiceConfig) :
    (routesStage screen options config).prints = [testingLine] := by
  unfold routesStage
  rw [tell_ok message_testing, Run.prints_bind_of_ok rfl]
  have hs : (staged .simulation (simulate none 0 config options.debug options.port
      simulationTimeout).outcome).Shows Event.Silent :=
    Run.shows_mapError (shows_simulate (fun _ _ => rfl) 0 config _ _ _)
  rw [Run.prints_eq_nil hs]
  rfl

theorem prints_alone_parse :
    (Stage.parse.alone (settingOf world env screen) options path).prints =
      [parsingLine screen path] :=
  (Run.prints_bind_silent fun _ => Run.shows_pure _).trans prints_parseStage

theorem prints_alone
    (h : (parseStage (settingOf world env screen) path).result = .ok parsed) (stage : Stage) :
    (stage.alone (settingOf world env screen) options path).prints =
      stage.lines (settingOf world env screen) options path := by
  cases stage with
  | parse => exact prints_alone_parse
  | lint =>
    rw [Stage.alone, onParsed_eq h]
    exact prints_lintStage (parseStage_ok_iff.mp h)
  | dump => rw [Stage.alone, onParsed_eq h, prints_dumpStage, Stage.lines, h, dumpLines]
  | routes =>
    rw [Stage.alone, onParsed_eq h, prints_routesStage]
    rfl

/-! ### No line but one reports a success -/

theorem begins_successLine : Begins 'S' successLine.toList := ⟨_, rfl⟩

theorem ne_successLine {c : Char} {line : String} (h : Begins c line.toList) (hc : c ≠ 'S') :
    line ≠ successLine := fun he =>
  ne_of_begins h begins_successLine hc (congrArg String.toList he)

theorem textLine_ne_successLine {c : Char} {s : String} (hc : Solid c) (h : Begins c s.toList)
    (hn : c ≠ 'S') : textLine screen s ≠ successLine :=
  ne_successLine (begins_text hc h (text_eq screen s)) hn

theorem ne_successLine_of_mem {stage : Stage} {line : String}
    (h : line ∈ stage.lines setting options path) : line ≠ successLine := by
  cases stage with
  | parse =>
    rw [List.mem_singleton.mp h]
    refine textLine_ne_successLine (c := 'P') (by decide) ?_ (by decide)
    rw [String.toList_append]
    exact ⟨_, rfl⟩
  | lint =>
    rcases List.mem_cons.mp h with rfl | h
    · decide
    · obtain ⟨source, -, rfl⟩ := List.mem_map.mp h
      refine textLine_ne_successLine (c := 'U') (by decide) ?_ (by decide)
      rw [String.toList_append]
      exact ⟨_, rfl⟩
  | dump =>
    rw [Stage.lines] at h
    cases hp : (parseStage setting path).result with
    | error failure =>
      rw [hp] at h
      cases h
    | ok parsed =>
      rw [hp, dumpLines] at h
      cases hd : dump setting.screen options.debug dumpLead parsed.config with
      | error fault =>
        rw [hd] at h
        cases h
      | ok text =>
        rw [hd] at h
        rw [List.mem_singleton.mp h]
        rcases begins_dump (c := 'P') (by decide) (by decide) ⟨_, rfl⟩ hd with hb | hb
        · exact ne_successLine hb (by decide)
        · exact ne_successLine hb (by decide)
  | routes =>
    rw [List.mem_singleton.mp h]
    decide

theorem begins_headline (fault : CheckFault) :
    ∃ c, Begins c fault.headline.toList ∧ Solid c ∧ c ≠ 'S' := by
  unfold CheckFault.headline
  split <;> first
    | exact ⟨_, begins_literal rfl, by decide, by decide⟩
    | rw [String.toList_append]
      exact ⟨_, (begins_literal rfl).append _, by decide, by decide⟩

/-- Every fault is reported, with a line that reports no success. -/
theorem exists_errorLine (screen : Screen) (fault : CheckFault) :
    ∃ line, error screen fault.headline fault.message = .ok line ∧ line ≠ successLine := by
  obtain ⟨line, hl⟩ := exists_error screen (headline_fixed fault) fault.message
  obtain ⟨c, hb, hc, hn⟩ := begins_headline fault
  exact ⟨line, hl, ne_successLine (begins_error (headline_fixed fault).quiet.1 hc hb hl) hn⟩

end Check

end Preflight

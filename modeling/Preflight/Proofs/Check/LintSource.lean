import Preflight.Proofs.Check.Stages

/-!
# Lint sees what was parsed

The parser's source is there exactly after a call that succeeded, it is the text that this call
rendered, and it decodes to the value that the call read. So a check with this parser never fails for
want of the content, nor because the content is no JSON (`source_of_last_call`).
-/

namespace Preflight.Check

open Gateway Json Report Schema Source Text

/-- A fault of the content to lint: it cannot be had, or it is no JSON. -/
def CheckFault.OfContent : CheckFault → Prop
  | .content _ | .notJson _ => True
  | _ => False

variable {screen : Screen} {world : World} {env : Environment} {options : Options} {path : Path} {parsed : Parsed}

theorem lintValue_faultsIn (v : Value) :
    FaultsIn (¬ CheckFault.OfContent ·) (lintValue screen options world v) := by
  unfold lintValue chosenSchema
  refine faultsIn_bind ?_ fun schema => faultsIn_staged (fun _ => id) _
  refine faultsIn_bind (faultsIn_orFault (fun _ => id) _) fun source => ?_
  refine faultsIn_bind (faultsIn_tell _) fun _ => ?_
  exact faultsIn_bind (faultsIn_staged (fun _ => id) _) fun loaded =>
    faultsIn_staged (fun _ => id) _

theorem lintStage_faultsIn (h : (keepingParser env world path).result = .ok parsed) :
    FaultsIn (¬ CheckFault.OfContent ·) (lintStage screen options path parsed) := by
  obtain ⟨bytes, v, hs, hd, -⟩ := keepingParser_source h
  rw [lintStage_eq hs hd]
  exact lintValue_faultsIn v

theorem dumpStage_faultsIn (screen : Screen) (config : ServiceConfig) :
    FaultsIn (¬ CheckFault.OfContent ·) (dumpStage screen options config) := by
  refine faultsIn_bind (faultsIn_staged (fun _ => id) _) fun printed fault h => ?_
  cases h

theorem routesStage_faultsIn (config : ServiceConfig) :
    FaultsIn (¬ CheckFault.OfContent ·) (routesStage screen options config) :=
  faultsIn_bind (faultsIn_tell _) fun _ => faultsIn_staged (fun _ => id) _

/-- A check with the keeping parser has no fault of the content. -/
theorem run_faultsIn (world : World) (env : Environment) (screen : Screen) (options : Options) :
    FaultsIn (¬ CheckFault.OfContent ·) (run ⟨world, keepingParser env, screen⟩ options) := by
  unfold run
  cases options.path with
  | none =>
    intro fault h
    cases h
    exact id
  | some path =>
    intro fault h
    rcases Run.bind_result_error_iff.mp h with h | ⟨parsed, hp, h⟩
    · have hf : FaultsIn (¬ CheckFault.OfContent ·)
          (parseStage ⟨world, keepingParser env, screen⟩ path) :=
        faultsIn_bind (faultsIn_tell _) fun _ => faultsIn_staged (fun _ => id) _
      exact hf fault h
    · have hl : FaultsIn (¬ CheckFault.OfContent ·) (lintStage screen options path parsed) :=
        lintStage_faultsIn (parseStage_ok_iff.mp hp)
      have hf : FaultsIn (¬ CheckFault.OfContent ·)
          (examine ⟨world, keepingParser env, screen⟩ options path parsed) := by
        refine faultsIn_bind (faultsIn_stageIf hl) fun _ => ?_
        refine faultsIn_bind (faultsIn_stageIf (dumpStage_faultsIn _ _)) fun _ => ?_
        exact faultsIn_stageIf (routesStage_faultsIn _)
      exact (faultsIn_bind hf fun _ => faultsIn_pure _ : FaultsIn _ _) fault h

/-- Whatever is written, removed, defined and parsed: the parser has a source exactly when its last
call succeeded; the source is the UTF-8 form of the text which that call rendered, and decodes to the
value whose configuration the call returned; and no check fails for its content. -/
theorem source_of_last_call (tree : FileTree) (env : Environment) (acts : List Act) :
    ((∃ bytes, ((Desk.mk tree env Parser.new).run acts).parser.source = .ok bytes) ↔
      ∃ before path after, acts = before ++ .parse path :: after ∧
        (∀ act ∈ after, act.isParse = false) ∧
        ∃ config, (((Desk.mk tree env Parser.new).run before).parse path).2.result = .ok config) ∧
    (∀ before path after bytes, acts = before ++ .parse path :: after →
      (∀ act ∈ after, act.isParse = false) →
      ((Desk.mk tree env Parser.new).run acts).parser.source = .ok bytes →
      ∃ config, (((Desk.mk tree env Parser.new).run before).parse path).2.result = .ok config ∧
        Remembered ((Desk.mk tree env Parser.new).run before).tree.read
          ((Desk.mk tree env Parser.new).run before).env path config bytes) ∧
    (∀ (world : World) (env : Environment) (path : Path) (parsed : Parsed) (parser : Parser),
      (keepingParser env world path).result = .ok parsed →
        parsed.source = (parser.parse world.read env path).1.lastSource) ∧
    ∀ (world : World) (env : Environment) (screen : Screen) (options : Options) (fault : CheckFault),
      (run ⟨world, keepingParser env, screen⟩ options).result = .error (.fault fault) →
        ¬ fault.OfContent := by
  refine ⟨Desk.exists_source_run_iff _ rfl acts, ?_, ?_, run_faultsIn⟩
  · rintro before path after bytes rfl hn h
    exact Desk.remembered_run _ hn h
  · intro world env path parsed parser h
    exact (keepingParser_remembers h parser).2.1

end Preflight.Check

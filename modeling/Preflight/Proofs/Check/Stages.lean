import Preflight.Check.Outcome
import Preflight.Proofs.Gateway.ParserHistory
import Preflight.Proofs.Report.ConsoleText

/-!
# What the stages of a check do

The announcements of a stage are always printed (`tell_text`). What the keeping parser leaves to the
other stages is what its call remembers (`keepingParser_remembers`), so the lint stage has its content
and can decode it: it amounts to finding the schema and validating the value that was parsed
(`lintStage_eq`).
-/

namespace Preflight.Check

open Gateway Json Report Routing Schema Source

variable {screen : Screen} {α β ε : Type}

/-! ### Announcements -/

def textLine (screen : Screen) (s : String) : String := ((text screen s).toOption).getD ""

theorem text_eq (screen : Screen) (s : String) : text screen s = .ok (textLine screen s) := by
  obtain ⟨shown, -, hs⟩ := exists_text_shownAs screen s
  rw [textLine, hs]
  rfl

theorem tell_ok {printed : Except (Failure MarkupFault) String} {line : String} (h : printed = .ok line) :
    tell printed = ⟨[.print line], .ok ()⟩ := by
  rw [h]
  rfl

theorem tell_text (screen : Screen) (s : String) :
    tell (text screen s) = ⟨[.print (textLine screen s)], .ok ()⟩ := tell_ok (text_eq screen s)

theorem message_of_bland {s : String} (hs : Bland s.toList) : message screen s = .ok (s ++ "\n") := by
  have hescape : escape s = s := by
    rw [escape, escapeChars_tagless hs.1.1, String.ofList_toList]
  have htext : text screen s = .ok (s ++ "\n") := text_of_legible (hs.1.2.lines hs.verbatim.codeless)
  unfold text at htext
  rwa [hescape] at htext

def lintingLine : String := "Linting configuration file...\n"

def testingLine : String := "Testing routes...\n"

theorem message_linting : message screen "Linting configuration file..." = .ok lintingLine :=
  message_of_bland (by decide +kernel)

theorem message_testing : message screen "Testing routes..." = .ok testingLine :=
  message_of_bland (by decide +kernel)

/-! ### Faults -/

/-- A computation whose faults, if it has any, are as told. -/
def FaultsIn (p : CheckFault → Prop) (x : Checking α) : Prop :=
  ∀ fault, x.result = .error (.fault fault) → p fault

variable {p : CheckFault → Prop}

theorem faultsIn_pure (a : α) : FaultsIn p (pure a) := by
  intro fault h
  cases h

theorem faultsIn_bind {x : Checking α} {f : α → Checking β} (hx : FaultsIn p x)
    (hf : ∀ a, FaultsIn p (f a)) : FaultsIn p (x >>= f) := by
  intro fault h
  rcases Run.bind_result_error_iff.mp h with h | ⟨a, -, h⟩
  · exact hx fault h
  · exact hf a fault h

theorem faultsIn_tell (printed : Except (Failure MarkupFault) String) : FaultsIn p (tell printed) := by
  intro fault h
  cases printed with
  | ok line => cases h
  | error failure => cases failure <;> cases h

theorem faultsIn_staged {f : ε → CheckFault} (hf : ∀ e, p (f e)) (x : Run (Failure ε) α) :
    FaultsIn p (staged f x) := by
  intro fault h
  obtain ⟨failure, -, h⟩ := mapError_error_iff.mp h
  cases failure with
  | fault e =>
    cases h
    exact hf e
  | mishap m => cases h

theorem faultsIn_orFault {f : ε → CheckFault} (hf : ∀ e, p (f e)) (x : Except ε α) :
    FaultsIn p (orFault f x) := by
  intro fault h
  obtain ⟨e, -, h⟩ := mapError_error_iff.mp h
  cases h
  exact hf e

theorem faultsIn_stageIf {wanted : Bool} {stage : Checking Unit} (h : FaultsIn p stage) :
    FaultsIn p (stageIf wanted stage) := by
  cases wanted with
  | false => exact faultsIn_pure ()
  | true => exact h

/-! ### Parsing -/

theorem staged_ok_iff {f : ε → CheckFault} {x : Run (Failure ε) α} {a : α} :
    (staged f x).result = .ok a ↔ x.result = .ok a := mapError_ok_iff

theorem orFault_ok_iff {f : ε → CheckFault} {x : Except ε α} {a : α} :
    (orFault f x).result = .ok a ↔ x = .ok a := mapError_ok_iff

def parsingLine (screen : Screen) (path : Path) : String :=
  textLine screen s!"Parsing configuration file: {path.text}"

theorem parseStage_eq (setting : Setting) (path : Path) :
    parseStage setting path =
      ⟨.print (parsingLine setting.screen path) :: (staged .parse (setting.parser setting.world path)).events,
        (staged .parse (setting.parser setting.world path)).result⟩ := by
  unfold parseStage
  rw [tell_text, Run.bind_of_ok _ rfl]
  rfl

theorem parseStage_ok_iff {setting : Setting} {path : Path} {parsed : Parsed} :
    (parseStage setting path).result = .ok parsed ↔
      (setting.parser setting.world path).result = .ok parsed := by
  rw [parseStage_eq]
  exact staged_ok_iff

theorem keepingParser_ok_iff {env : Environment} {world : World} {path : Path} {parsed : Parsed} :
    (keepingParser env world path).result = .ok parsed ↔
      ∃ config rendered, (parseFile world.read env path).result = .ok (config, rendered) ∧
        ⟨config, some (Text.utf8 rendered), world⟩ = parsed := by
  show (parseFile world.read env path >>= fun read =>
    pure (Parsed.mk read.1 (some (Text.utf8 read.2)) world)).result = _ ↔ _
  rw [Run.bind_result_ok_iff]
  constructor
  · rintro ⟨⟨config, rendered⟩, hp, hc⟩
    cases hc
    exact ⟨config, rendered, hp, rfl⟩
  · rintro ⟨config, rendered, hp, rfl⟩
    exact ⟨(config, rendered), hp, rfl⟩

/-- What the keeping parser leaves is what a call of a parser returns and remembers. -/
theorem keepingParser_remembers {env : Environment} {world : World} {path : Path} {parsed : Parsed}
    (h : (keepingParser env world path).result = .ok parsed) (parser : Parser) :
    parsed.world = world ∧ parsed.source = (parser.parse world.read env path).1.lastSource ∧
      (parser.parse world.read env path).2.result = .ok parsed.config := by
  obtain ⟨config, rendered, hp, rfl⟩ := keepingParser_ok_iff.mp h
  refine ⟨rfl, ?_, parse_result_ok_iff.mpr ⟨rendered, hp⟩⟩
  unfold Parser.parse
  dsimp only
  rw [hp]

/-- The source that the keeping parser leaves decodes to the value that was parsed. -/
theorem keepingParser_source {env : Environment} {world : World} {path : Path} {parsed : Parsed}
    (h : (keepingParser env world path).result = .ok parsed) :
    ∃ bytes v, parsed.source = some bytes ∧ decodeBytes bytes = .ok v ∧
      serviceConfig v = .ok parsed.config := by
  obtain ⟨config, rendered, hp, rfl⟩ := keepingParser_ok_iff.mp h
  obtain ⟨v, hd, hs⟩ := (remembered_of_parseFile hp).decoded
  exact ⟨_, v, rfl, hd, hs⟩

abbrev settingOf (world : World) (env : Environment) (screen : Screen) : Setting :=
  ⟨world, keepingParser env, screen⟩

/-! ### Linting -/

def lintValue (screen : Screen) (options : Options) (world : World) (v : Value) : Checking Unit := do
  let schema ← chosenSchema screen options world
  staged .lint (schema.validate (fetchWith world (some defaultLoader)) v)

/-- With a source that decodes, the lint stage finds the schema and validates the value. -/
theorem lintStage_eq {options : Options} {path : Path} {parsed : Parsed} {bytes : List UInt8}
    {v : Value} (hs : parsed.source = some bytes) (hd : decodeBytes bytes = .ok v) :
    lintStage screen options path parsed =
      ⟨.print lintingLine :: (lintValue screen options parsed.world v).events,
        (lintValue screen options parsed.world v).result⟩ := by
  unfold lintStage
  rw [tell_ok message_linting, Run.bind_of_ok _ rfl, rawContent, hs, Run.bind_of_ok _ rfl, hd,
    Run.bind_of_ok _ rfl]
  rfl

end Preflight.Check

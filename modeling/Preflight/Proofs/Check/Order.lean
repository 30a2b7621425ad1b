import Preflight.Proofs.Check.Stages

/-!
# The order of the stages

Each stage can be run alone, on what parsing leaves (`Stage.alone`). A check runs the stages that are
asked for one after another (`run_eq`): the first one that fails is the last one that runs, and until
then the events of the check are those of the stages (`inOrder_of_ok`, `inOrder_of_error`).
-/

namespace Preflight.Check

open Gateway Report

inductive Stage
  | parse
  | lint
  | dump
  | routes
  deriving DecidableEq, Repr

namespace Stage

def asked (options : Options) : Stage → Bool
  | .parse => true
  | .lint => options.lint
  | .dump => 0 < options.debug
  | .routes => options.testRoutes

def later : List Stage := [.lint, .dump, .routes]

/-- A stage on what parsing leaves; there is none to run where parsing fails. -/
def onParsed (setting : Setting) (path : Path) (stage : Parsed → Checking Unit) : Checking Unit :=
  match (parseStage setting path).result with
  | .ok parsed => stage parsed
  | .error _ => pure ()

/-- A stage without those before it. -/
def alone (setting : Setting) (options : Options) (path : Path) : Stage → Checking Unit
  | .parse => (fun _ => ()) <$> parseStage setting path
  | .lint => onParsed setting path (lintStage setting.screen options path)
  | .dump => onParsed setting path fun parsed => dumpStage setting.screen options parsed.config
  | .routes => onParsed setting path fun parsed => routesStage setting.screen options parsed.config

end Stage

def stagesOf (options : Options) : List Stage := .parse :: Stage.later.filter (·.asked options)

/-! ### One computation after another -/

/-- Computations in order, as far as they pass. -/
def inOrder : List (Checking Unit) → Checking Unit
  | [] => pure ()
  | x :: xs => do
    x
    inOrder xs

variable {x : Checking Unit} {xs before after : List (Checking Unit)} {failure : Failure CheckFault}

theorem inOrder_ok_iff : (inOrder xs).result = .ok () ↔ ∀ x ∈ xs, x.result = .ok () := by
  induction xs with
  | nil => exact ⟨fun _ x hx => absurd hx List.not_mem_nil, fun _ => rfl⟩
  | cons x xs ih =>
    rw [inOrder, Run.bind_result_ok_iff, List.forall_mem_cons, ← ih]
    constructor
    · rintro ⟨_, hx, hxs⟩
      exact ⟨hx, hxs⟩
    · rintro ⟨hx, hxs⟩
      exact ⟨(), hx, hxs⟩

theorem inOrder_append_of_ok (h : ∀ x ∈ before, x.result = .ok ()) (xs : List (Checking Unit)) :
    inOrder (before ++ xs) =
      ⟨before.flatMap Run.events ++ (inOrder xs).events, (inOrder xs).result⟩ := by
  induction before with
  | nil => rfl
  | cons x before ih =>
    obtain ⟨hx, hb⟩ := List.forall_mem_cons.mp h
    rw [List.cons_append, inOrder, Run.bind_of_ok _ hx, ih hb, List.flatMap_cons, List.append_assoc]

theorem inOrder_of_ok (h : ∀ x ∈ xs, x.result = .ok ()) :
    inOrder xs = ⟨xs.flatMap Run.events, .ok ()⟩ := by
  have := inOrder_append_of_ok h []
  rw [List.append_nil] at this
  rw [this]
  show Run.mk (_ ++ []) _ = _
  rw [List.append_nil]
  rfl

/-- The first computation that fails is the last one to show anything. -/
theorem inOrder_of_error (h : ∀ x ∈ before, x.result = .ok ()) (hx : x.result = .error failure) :
    inOrder (before ++ x :: after) = ⟨(before ++ [x]).flatMap Run.events, .error failure⟩ := by
  rw [inOrder_append_of_ok h, inOrder, Run.bind_of_error _ hx, List.flatMap_append,
    List.flatMap_singleton]

theorem inOrder_filter {α : Type} (wanted : α → Bool) (f : α → Checking Unit) (l : List α) :
    inOrder ((l.filter wanted).map f) = inOrder (l.map fun a => stageIf (wanted a) (f a)) := by
  induction l with
  | nil => rfl
  | cons a l ih =>
    rw [List.map_cons, inOrder, ← ih]
    cases h : wanted a with
    | false =>
      rw [List.filter_cons_of_neg (by rw [h]; decide)]
      rfl
    | true =>
      rw [List.filter_cons_of_pos h]
      rfl

theorem bind_done (x : Checking Unit) : (do x; pure ()) = x := by
  cases h : x.result with
  | ok a =>
    rw [Run.bind_of_ok _ h, Run.pure_events, List.append_nil, Run.pure_result, ← h]
  | error e =>
    rw [Run.bind_of_error _ h, ← h]

/-! ### The stages in order -/

variable {setting : Setting} {options : Options} {path : Path}

theorem onParsed_eq {parsed : Parsed} (h : (parseStage setting path).result = .ok parsed)
    (stage : Parsed → Checking Unit) : Stage.onParsed setting path stage = stage parsed := by
  unfold Stage.onParsed
  rw [h]

theorem examine_eq {parsed : Parsed} (h : (parseStage setting path).result = .ok parsed) :
    examine setting options path parsed =
      inOrder ((Stage.later.filter (·.asked options)).map (·.alone setting options path)) := by
  rw [inOrder_filter]
  unfold examine Stage.later Stage.asked Stage.alone
  simp only [List.map_cons, List.map_nil, inOrder, onParsed_eq h, bind_done]

theorem alone_parse_ok {parsed : Parsed} (h : (parseStage setting path).result = .ok parsed) :
    Stage.parse.alone setting options path = ⟨(parseStage setting path).events, .ok ()⟩ := by
  show (parseStage setting path >>= fun _ => pure ()) = _
  rw [Run.bind_of_ok _ h, Run.pure_events, List.append_nil]
  rfl

theorem alone_parse_error (h : (parseStage setting path).result = .error failure) :
    Stage.parse.alone setting options path =
      ⟨(parseStage setting path).events, .error failure⟩ := by
  show (parseStage setting path >>= fun _ => pure ()) = _
  rw [Run.bind_of_error _ h]

/-- A check runs the stages that are asked for in order. -/
theorem run_eq (hp : options.path = some path) :
    (fun _ => ()) <$> run setting options =
      inOrder ((stagesOf options).map (·.alone setting options path)) := by
  show (run setting options >>= fun _ => pure ()) = _
  unfold run stagesOf
  rw [hp, List.map_cons, inOrder]
  dsimp only
  cases h : (parseStage setting path).result with
  | error failure =>
    rw [alone_parse_error h, Run.bind_of_error _ h]
    rfl
  | ok parsed =>
    rw [alone_parse_ok h, ← examine_eq h, Run.bind_of_ok _ h]
    cases he : (examine setting options path parsed).result with
    | ok u =>
      rw [Run.bind_of_ok _ he, Run.bind_of_ok _ rfl, Run.bind_of_ok _ rfl, he]
      simp
    | error failure =>
      rw [Run.bind_of_error _ he, Run.bind_of_error _ rfl, Run.bind_of_ok _ rfl, he]

end Preflight.Check

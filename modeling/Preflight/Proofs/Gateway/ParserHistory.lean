import Preflight.Gateway.Parser
import Preflight.Proofs.Gateway.Reading
import Preflight.Proofs.Json.ObjectText

/-!
# What a parser remembers

Files and variables change and a parser is asked to parse, in any order. What the parser remembers is
decided by the last call alone: nothing if that call failed, otherwise the bytes of the text it read
then, and these decode to the value that its configuration was read from
(`Desk.exists_source_run_iff`, `Desk.remembered_run`).
-/

namespace Preflight.Gateway

open Json Source Text

variable {read : Path → Except FileFault (List UInt8)} {env : Environment} {path : Path}

/-! ### One call -/

theorem decodeConfig_ok_iff {place : String} {text : List Char} {v : Value} :
    decodeConfig place text = .ok v ↔ decodeText text = .ok v := by
  unfold decodeConfig
  cases decodeText text with
  | ok v' => simp
  | error cause => cases cause <;> simp

theorem parseText_ok_iff {place : String} {text rendered : List Char} {config : ServiceConfig} :
    parseText env place text = .ok (config, rendered) ↔
      renderText env text = .ok (systemText rendered) ∧
        ∃ v, decodeText rendered = .ok v ∧ serviceConfig v = .ok config := by
  unfold parseText
  cases renderText env text with
  | error name => simp
  | ok replaced =>
    dsimp only
    rw [bind_ok_iff]
    constructor
    · rintro ⟨v, hd, h⟩
      cases hs : serviceConfig v with
      | error fault =>
        rw [hs] at h
        cases h
      | ok config' =>
        rw [hs] at h
        dsimp only at h
        cases hp : plain replaced with
        | error signs =>
          rw [hp] at h
          cases h
        | ok chars =>
          rw [hp] at h
          cases h
          rw [plain_eq_ok_iff.mp hp, map_shown_systemText] at hd
          exact ⟨congrArg _ (plain_eq_ok_iff.mp hp), v, decodeConfig_ok_iff.mp hd, hs⟩
    · rintro ⟨hr, v, hd, hs⟩
      cases hr
      refine ⟨v, by rwa [map_shown_systemText, decodeConfig_ok_iff], ?_⟩
      rw [hs]
      dsimp only
      rw [plain_systemText]
      rfl

theorem parseFile_ok_iff {config : ServiceConfig} {rendered : List Char} :
    (parseFile read env path).result = .ok (config, rendered) ↔
      ∃ text, readText read path = .ok text ∧ renderText env text = .ok (systemText rendered) ∧
        ∃ v, decodeText rendered = .ok v ∧ serviceConfig v = .ok config := by
  unfold parseFile
  constructor
  · intro h
    obtain ⟨_, -, h⟩ := Run.bind_result_ok_iff.mp h
    obtain ⟨parsed, hp, h⟩ := Run.bind_result_ok_iff.mp h
    obtain ⟨_, -, h⟩ := Run.bind_result_ok_iff.mp h
    cases h
    obtain ⟨text, ht, h⟩ := bind_ok_iff.mp hp
    exact ⟨text, ht, parseText_ok_iff.mp h⟩
  · rintro ⟨text, ht, h⟩
    refine Run.bind_result_ok_iff.mpr ⟨(), rfl, ?_⟩
    refine Run.bind_result_ok_iff.mpr ⟨(config, rendered), ?_, ?_⟩
    · exact bind_ok_iff.mpr ⟨text, ht, parseText_ok_iff.mpr h⟩
    · exact Run.bind_result_ok_iff.mpr ⟨(), rfl, rfl⟩

theorem exists_members {v : Value} {config : ServiceConfig} (h : serviceConfig v = .ok config) :
    ∃ members, v = .object members := by
  obtain ⟨members, rfl, -⟩ := (reads_serviceConfig v).mp ⟨config, h⟩
  exact ⟨members, rfl⟩

/-- What a parser has to remember of a call: the bytes of the text it read, placeholders replaced,
which decode to the value that the configuration was read from. -/
structure Remembered (read : Path → Except FileFault (List UInt8)) (env : Environment) (path : Path)
    (config : ServiceConfig) (bytes : List UInt8) : Prop where
  rendered : ∃ text rendered, readText read path = .ok text ∧
    renderText env text = .ok (systemText rendered) ∧ bytes = utf8 rendered
  decoded : ∃ v, decodeBytes bytes = .ok v ∧ serviceConfig v = .ok config

theorem remembered_of_parseFile {config : ServiceConfig} {rendered : List Char}
    (h : (parseFile read env path).result = .ok (config, rendered)) :
    Remembered read env path config (utf8 rendered) := by
  obtain ⟨text, ht, hr, v, hd, hs⟩ := parseFile_ok_iff.mp h
  obtain ⟨members, rfl⟩ := exists_members hs
  exact ⟨⟨text, rendered, ht, hr, rfl⟩, .object members, decodeBytes_utf8 hd, hs⟩

variable {parser : Parser}

theorem parse_result_ok_iff {config : ServiceConfig} :
    (parser.parse read env path).2.result = .ok config ↔
      ∃ rendered, (parseFile read env path).result = .ok (config, rendered) := by
  show (parseFile read env path >>= fun parsed => pure parsed.1).result = _ ↔ _
  rw [Run.bind_result_ok_iff]
  constructor
  · rintro ⟨⟨config', rendered⟩, hp, hc⟩
    cases hc
    exact ⟨rendered, hp⟩
  · rintro ⟨rendered, hp⟩
    exact ⟨(config, rendered), hp, rfl⟩

theorem source_parse_iff {bytes : List UInt8} :
    (parser.parse read env path).1.source = .ok bytes ↔
      ∃ config rendered, (parseFile read env path).result = .ok (config, rendered) ∧
        utf8 rendered = bytes := by
  unfold Parser.parse Parser.source
  dsimp only
  cases hp : (parseFile read env path).result with
  | error failure => simp
  | ok parsed =>
    obtain ⟨config, rendered⟩ := parsed
    constructor
    · intro h
      cases h
      exact ⟨config, rendered, rfl, rfl⟩
    · rintro ⟨config', rendered', hc, rfl⟩
      cases hc
      rfl

/-- A call that succeeds is remembered, with what it returned. -/
theorem remembered_of_source {bytes : List UInt8}
    (h : (parser.parse read env path).1.source = .ok bytes) :
    ∃ config, (parser.parse read env path).2.result = .ok config ∧
      Remembered read env path config bytes := by
  obtain ⟨config, rendered, hp, rfl⟩ := source_parse_iff.mp h
  exact ⟨config, parse_result_ok_iff.mpr ⟨rendered, hp⟩, remembered_of_parseFile hp⟩

theorem exists_source_iff :
    (∃ bytes, (parser.parse read env path).1.source = .ok bytes) ↔
      ∃ config, (parser.parse read env path).2.result = .ok config := by
  constructor
  · rintro ⟨bytes, h⟩
    obtain ⟨config, hc, -⟩ := remembered_of_source h
    exact ⟨config, hc⟩
  · rintro ⟨config, h⟩
    obtain ⟨rendered, hp⟩ := parse_result_ok_iff.mp h
    exact ⟨utf8 rendered, source_parse_iff.mpr ⟨config, rendered, hp, rfl⟩⟩

/-! ### Many calls -/

/-- What happens around a parser. -/
inductive Act
  | write (path : Path) (e : Entry)
  | remove (path : Path)
  | define (name : String) (value : SystemText)
  | undefine (name : String)
  | parse (path : Path)

/-- Whether an act is a call of the parser. -/
def Act.isParse : Act → Bool
  | .parse _ => true
  | _ => false

/-- A parser between files and variables. -/
structure Desk where
  tree : FileTree
  env : Environment
  parser : Parser

namespace Desk

variable (d : Desk)

def parse (path : Path) : Parser × Parsing ServiceConfig := d.parser.parse d.tree.read d.env path

def step : Act → Desk
  | .write path e => { d with tree := d.tree.write path e }
  | .remove path => { d with tree := d.tree.remove path }
  | .define name value => { d with env := Table.put d.env name value }
  | .undefine name => { d with env := Table.erase d.env name }
  | .parse path => { d with parser := (d.parse path).1 }

def run (acts : List Act) : Desk := acts.foldl step d

theorem run_append (before after : List Act) :
    d.run (before ++ after) = (d.run before).run after := List.foldl_append

theorem parser_step {act : Act} (h : act.isParse = false) : (d.step act).parser = d.parser := by
  cases act with
  | parse path => cases h
  | _ => rfl

/-- Whatever changes around a parser that is not called, it remembers what it did. -/
theorem parser_run {acts : List Act} (h : ∀ act ∈ acts, act.isParse = false) :
    (d.run acts).parser = d.parser := by
  induction acts generalizing d with
  | nil => rfl
  | cons act acts ih =>
    rw [List.forall_mem_cons] at h
    show ((d.step act).run acts).parser = _
    rw [ih (d.step act) h.2, d.parser_step h.1]

theorem last_call (acts : List Act) :
    (∀ act ∈ acts, act.isParse = false) ∨
      ∃ before path after, acts = before ++ .parse path :: after ∧
        ∀ act ∈ after, act.isParse = false := by
  induction acts with
  | nil => exact .inl fun act h => absurd h List.not_mem_nil
  | cons act acts ih =>
    rcases ih with h | ⟨before, path, after, rfl, h⟩
    · cases act with
      | parse path => exact .inr ⟨[], path, acts, rfl, h⟩
      | _ => exact .inl (List.forall_mem_cons.mpr ⟨rfl, h⟩)
    · exact .inr ⟨act :: before, path, after, rfl, h⟩

/-- After a history the parser is as its last call left it. -/
theorem parser_after_call {before after : List Act} {path : Path}
    (h : ∀ act ∈ after, act.isParse = false) :
    (d.run (before ++ .parse path :: after)).parser = ((d.run before).parse path).1 := by
  rw [run_append]
  exact ((d.run before).step (.parse path)).parser_run h

/-- The parser has a source exactly when its last call succeeded. -/
theorem exists_source_run_iff (hd : d.parser = Parser.new) (acts : List Act) :
    (∃ bytes, (d.run acts).parser.source = .ok bytes) ↔
      ∃ before path after, acts = before ++ .parse path :: after ∧
        (∀ act ∈ after, act.isParse = false) ∧
        ∃ config, ((d.run before).parse path).2.result = .ok config := by
  constructor
  · rintro ⟨bytes, h⟩
    rcases last_call acts with hn | ⟨before, path, after, rfl, hn⟩
    · rw [d.parser_run hn, hd] at h
      cases h
    · rw [d.parser_after_call hn] at h
      exact ⟨before, path, after, rfl, hn, exists_source_iff.mp ⟨bytes, h⟩⟩
  · rintro ⟨before, path, after, rfl, hn, h⟩
    rw [d.parser_after_call hn]
    exact exists_source_iff.mpr h

theorem remembered_run {before after : List Act} {path : Path} {bytes : List UInt8}
    (hn : ∀ act ∈ after, act.isParse = false)
    (h : (d.run (before ++ .parse path :: after)).parser.source = .ok bytes) :
    ∃ config, ((d.run before).parse path).2.result = .ok config ∧
      Remembered (d.run before).tree.read (d.run before).env path config bytes := by
  rw [d.parser_after_call hn] at h
  exact remembered_of_source h

end Desk

end Preflight.Gateway

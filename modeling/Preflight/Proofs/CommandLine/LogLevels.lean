import Mathlib.Data.List.Basic
import Preflight.CommandLine.Session
import Preflight.Proofs.Check.Mishaps
import Preflight.Proofs.Report.Records

/-!
# Which records a session shows

What a session shows depends on its check and on a level. The level is told by the options given: being
verbose counts more than being quiet, and either more than a level that is named (`shownLevel_eq`).
Sessions whose checks are the same have one course of events, of which each shows the lines of the
report and the records of its level on, each record with its level and its message (`Renders`). So they end
alike and make the same requests, and the stricter one shows part of what the other shows
(`sessions_render`).
-/

namespace Preflight.CommandLine

open Check Gateway Report Source Text

/-! ### The level that is asked for -/

def Given.is (key : CheckOption) : Given CheckOption → Bool
  | .option spec _ => spec.key == key
  | _ => false

def Given.level? : Given CheckOption → Option Level
  | .option spec value =>
    if spec.key = .logLevel then levelNames.lookup (value.getD "") else none
  | _ => none

def givenTo (arguments : List String) : List (Given CheckOption) :=
  ((readWords checkOptions arguments.tail).toOption.map (givens checkOptions)).getD []

/-- The level that some options ask for: the last one named, unless one of them is to be verbose or
quiet. -/
def levelOf (given : List (Given CheckOption)) : Level :=
  if given.any (Given.is .verbose) then .debug
  else if given.any (Given.is .quiet) then .error
  else (given.filterMap Given.level?).getLast?.getD .info

variable {command next : CheckCommand} {arguments rest : List String} {words : List String}

theorem readLevel_ok {title value : String} {level : Level}
    (h : CheckCommand.readLevel title value = .ok level) : levelNames.lookup value = some level := by
  unfold CheckCommand.readLevel at h
  split at h
  · next found hl =>
    cases h
    exact hl
  · cases h

theorem give_ok {spec : OptionSpec CheckOption} {value : Option String}
    (h : command.give spec (value.getD "") = .ok next) :
    next.verbose = (command.verbose || Given.is .verbose (.option spec value)) ∧
    next.quiet = (command.quiet || Given.is .quiet (.option spec value)) ∧
    next.logLevel = (Given.level? (.option spec value)).getD command.logLevel := by
  obtain ⟨key, names, takesValue⟩ := spec
  unfold CheckCommand.give at h
  cases key with
  | help => cases h
  | logLevel =>
    obtain ⟨level, hl, rfl⟩ := map_ok_iff.mp h
    simp [Given.is, Given.level?, readLevel_ok hl]
  | port =>
    obtain ⟨port, -, rfl⟩ := map_ok_iff.mp h
    simp [Given.is, Given.level?, CheckCommand.withOptions]
  | _ =>
    cases h
    simp [Given.is, Given.level?, CheckCommand.withOptions]

theorem giveAll_ok {given : List (Given CheckOption)} {words : List String}
    (h : command.giveAll given = .ok (next, words)) :
    next.verbose = (command.verbose || given.any (Given.is .verbose)) ∧
    next.quiet = (command.quiet || given.any (Given.is .quiet)) ∧
    next.logLevel = (given.filterMap Given.level?).getLast?.getD command.logLevel := by
  induction given generalizing command next words with
  | nil =>
    cases h
    simp
  | cons first given ih =>
    cases first with
    | option spec value =>
      obtain ⟨between, hb, hn⟩ := bind_ok_iff.mp h
      obtain ⟨hv, hq, hl⟩ := give_ok hb
      obtain ⟨hvs, hqs, hls⟩ := ih hn
      refine ⟨?_, ?_, ?_⟩
      · rw [hvs, hv, List.any_cons, Bool.or_assoc]
      · rw [hqs, hq, List.any_cons, Bool.or_assoc]
      · rw [hls, hl]
        cases hlevel : Given.level? (.option spec value) with
        | none => rw [List.filterMap_cons_none hlevel]; rfl
        | some level =>
          rw [List.filterMap_cons_some hlevel, List.getLast?_cons]
          rfl
    | leftover word =>
      obtain ⟨⟨between, words'⟩, hb, hn⟩ := bind_ok_iff.mp h
      cases hn
      exact ih hb
    | fault fault => cases h

/-! ### Command lines that are accepted -/

theorem readWords_texts {κ : Type} {table : OptionTable κ} {arguments : List String}
    {words : List (String × Word κ)} (h : readWords table arguments = .ok words) :
    words.map (·.1) = arguments := by
  induction arguments generalizing words with
  | nil =>
    cases h
    rfl
  | cons word arguments ih =>
    unfold readWords at h
    split at h
    · cases h
      simp [List.map_map, Function.comp_def]
    · obtain ⟨first, -, h⟩ := bind_ok_iff.mp h
      obtain ⟨others, ho, h⟩ := bind_ok_iff.mp h
      cases h
      rw [List.map_cons, ih ho]

theorem ofCheck_ok {leftover : List String}
    (h : Invocation.ofCheck leftover rest = .ok (.check command)) :
    leftover = [] ∧ ∃ words, readWords checkOptions rest = .ok words ∧
      CheckCommand.giveAll {} (givens checkOptions words) = .ok (command, []) := by
  obtain ⟨words, hw, h⟩ := bind_ok_iff.mp h
  split at h
  · cases h
  · cases h
  · next given left hg =>
    split at h
    · next hnil =>
      cases h
      obtain ⟨hl, rfl⟩ := List.append_eq_nil_iff.mp hnil
      exact ⟨hl, words, mapError_ok_iff.mp hw, hg⟩
    · cases h

theorem ofOption_ne_check (option : ProgramOption) :
    (Except.ok (Invocation.ofOption option) : Except UsageError Invocation) ≠ .ok (.check command) := by
  intro h
  cases option <;> cases h

theorem ofWords_ok {words : List (String × Word ProgramOption)} {leftover : List String}
    (h : Invocation.ofWords leftover words = .ok (.check command)) :
    leftover = [] ∧ ∃ word rest, words = (checkName, word) :: rest ∧
      Invocation.ofCheck [] (rest.map (·.1)) = .ok (.check command) := by
  induction words generalizing leftover with
  | nil => cases h
  | cons first words ih =>
    obtain ⟨text, word⟩ := first
    have hmore {word : String} (hw : Invocation.ofWords (leftover ++ [word]) words =
        .ok (.check command)) : False :=
      absurd (ih hw).1 (List.append_ne_nil_of_right_ne_nil _ (List.cons_ne_nil _ _))
    unfold Invocation.ofWords at h
    split at h
    · cases h
    · exact absurd h (ofOption_ne_check _)
    · exact absurd h (ofOption_ne_check _)
    · exact (hmore h).elim
    · split at h
      · next heq =>
        obtain ⟨rfl, -⟩ := ofCheck_ok h
        exact ⟨rfl, _, words, by rw [eq_of_beq heq], h⟩
      · cases h
    · split at h
      · cases h
      · cases h
    · exact (hmore h).elim

/-- What an accepted command line says of records is what stands behind the command. -/
theorem read_ok (h : Invocation.read arguments = .ok (.check command)) :
    ∃ words, readWords checkOptions arguments.tail = .ok words ∧
      CheckCommand.giveAll {} (givens checkOptions words) = .ok (command, []) := by
  obtain ⟨words, hw, h⟩ := bind_ok_iff.mp h
  obtain ⟨-, word, rest, rfl, hc⟩ := ofWords_ok h
  rw [← readWords_texts (mapError_ok_iff.mp hw)]
  exact (ofCheck_ok hc).2

/-- The records that an accepted command line asks for. -/
theorem shownLevel_eq (h : Invocation.read arguments = .ok (.check command)) :
    command.shownLevel = levelOf (givenTo arguments) := by
  obtain ⟨words, hw, hg⟩ := read_ok h
  obtain ⟨hv, hq, hl⟩ := giveAll_ok hg
  unfold CheckCommand.shownLevel levelOf givenTo
  rw [hw, hv, hq, hl]
  rfl

/-! ### What a session shows -/

/-- The record that an event is. -/
def recorded? : Event → Option (Level × String)
  | .log level message => some (level, message)
  | _ => none

/-- Whether an event is shown at a level: a line of the report always is, a record if it is as severe. -/
def isShown (least : Level) : Event → Bool
  | .print _ => true
  | .log level _ => least.rank ≤ level.rank
  | _ => false

def rendered (screen : Screen) : Event → String
  | .print text => text
  | .log level message => logRecord screen.width level message
  | _ => ""

/-- A session as an account of a run: it ends as the run does and makes the same requests and reads, and
its output are some of the events, which hold all the lines of the report, the records from a level on,
and nothing else. What stands in the output for a record tells its level and its message, if the lines have
room for that. -/
structure Session.Renders (screen : Screen) (s : Session) (least : Level) (x : Run Empty Nat)
    (events : List Event) : Prop where
  status : x.result = .ok s.status
  requests : s.requests = x.requests
  reads : s.reads = x.reads
  complaint : s.complaint = ""
  output : s.output = String.join (events.map (rendered screen))
  told : levelWidth + 3 ≤ screen.width → ∀ level message, .log level message ∈ events →
    Tells level message (rendered screen (.log level message))
  part : events.Sublist x.events
  lines : events.filterMap Event.printed? = x.prints
  records : events.filterMap recorded? = x.logs.filter fun r => least.rank ≤ r.1.rank

theorem join_shown (screen : Screen) (least : Level) (events : List Event) :
    String.join (events.map (shown screen least)) =
      String.join ((events.filter (isShown least)).map (rendered screen)) := by
  induction events with
  | nil => rfl
  | cons e events ih =>
    have he : shown screen least e = if isShown least e then rendered screen e else "" := by
      cases e with
      | log level message => simp [shown, isShown, rendered]
      | _ => rfl
    rw [List.map_cons, String.join_cons, ih, he, List.filter_cons]
    split
    · rw [List.map_cons, String.join_cons]
    · exact String.empty_append

theorem printed_filter (least : Level) (events : List Event) :
    (events.filter (isShown least)).filterMap Event.printed? = events.filterMap Event.printed? := by
  rw [List.filterMap_filter]
  refine List.filterMap_congr fun e _ => ?_
  cases e with
  | print text => rfl
  | _ => exact ite_self none

theorem recorded_filter (least : Level) (events : List Event) :
    (events.filter (isShown least)).filterMap recorded? =
      (events.filterMap recorded?).filter fun r => least.rank ≤ r.1.rank := by
  rw [List.filterMap_filter, List.filter_filterMap]
  refine List.filterMap_congr fun e _ => ?_
  cases e with
  | log level message => simp [isShown, recorded?, Option.filter]
  | print text => rfl
  | _ => rfl

theorem filter_isShown_sublist {least stricter : Level} (h : least.rank ≤ stricter.rank)
    (events : List Event) :
    (events.filter (isShown stricter)).Sublist (events.filter (isShown least)) := by
  refine List.monotone_filter_right events fun e he => ?_
  cases e with
  | print text => rfl
  | log level message => exact decide_eq_true (Nat.le_trans h (of_decide_eq_true he))
  | _ => cases he

theorem renders_ofRun (screen : Screen) (least : Level) (x : Run Empty Nat) :
    (Session.ofRun screen least x).Renders screen least x (x.events.filter (isShown least)) where
  status := by
    unfold Session.ofRun
    cases hx : x.result with
    | ok status => rfl
    | error e => nomatch e
  requests := rfl
  reads := rfl
  complaint := rfl
  output := join_shown screen least x.events
  told hw level message _ := tells_logRecord hw level message
  part := List.filter_sublist
  lines := printed_filter least x.events
  records := recorded_filter least x.events

/-- Command lines that ask for the same check have sessions that end alike and make the same requests,
and that show the same report. Of the records of the check each session shows those from its level on,
so the one of a stricter level shows part of what the other does. -/
theorem sessions_render {arguments₁ arguments₂ : List String} {command₁ command₂ : CheckCommand}
    (h₁ : Invocation.read arguments₁ = .ok (.check command₁))
    (h₂ : Invocation.read arguments₂ = .ok (.check command₂))
    (ho : command₁.options = command₂.options) (screen : Screen) (world : World) (env : Environment) :
    ∃ events₁ events₂ x,
      x = guarded (check ⟨world, keepingParser env, screen⟩ command₁.options) ∧
      (Session.ofArguments screen world env arguments₁).Renders screen (levelOf (givenTo arguments₁)) x events₁ ∧
      (Session.ofArguments screen world env arguments₂).Renders screen (levelOf (givenTo arguments₂)) x events₂ ∧
      (Session.ofArguments screen world env arguments₁).status =
        (Session.ofArguments screen world env arguments₂).status ∧
      (Session.ofArguments screen world env arguments₁).requests =
        (Session.ofArguments screen world env arguments₂).requests ∧
      ((levelOf (givenTo arguments₂)).rank ≤ (levelOf (givenTo arguments₁)).rank →
        events₁.Sublist events₂) := by
  have hs₁ : Session.ofArguments screen world env arguments₁ = Session.ofCheck screen world env command₁ := by
    unfold Session.ofArguments
    rw [h₁]
  have hs₂ : Session.ofArguments screen world env arguments₂ = Session.ofCheck screen world env command₂ := by
    unfold Session.ofArguments
    rw [h₂]
  rw [hs₁, hs₂, ← shownLevel_eq h₁, ← shownLevel_eq h₂]
  unfold Session.ofCheck
  rw [← ho]
  refine ⟨_, _, _, rfl, renders_ofRun _ _ _, renders_ofRun _ _ _, rfl, rfl, fun h => ?_⟩
  exact filter_isShown_sublist h _

/-- A check of one file, to be told quietly. -/
def quietly : List String := ["check", "-c", "gateway.json", "-q"]

def verbosely : List String := ["check", "--log-level=error", "-v", "-c", "gateway.json"]

theorem read_quietly : Invocation.read quietly =
    .ok (.check ⟨plainOptions, true, false, .info⟩) := by
  simp [quietly, plainOptions, Invocation.read, Invocation.ofWords, Invocation.ofCheck, readWords,
    Word.read, Bundle.ofWord?, Bundle.ofLetter, letterName, OptionTable.find?, OptionTable.names,
    List.lookup_cons, checkName, checkOptions, programOptions, givens, CheckCommand.giveAll,
    CheckCommand.give, CheckCommand.withOptions, Except.mapError, bind, Except.bind, pure, Except.pure]

theorem read_verbosely : Invocation.read verbosely =
    .ok (.check ⟨plainOptions, false, true, .error⟩) := by
  simp [verbosely, plainOptions, Invocation.read, Invocation.ofWords, Invocation.ofCheck, readWords,
    Word.read, Word.readLong, Word.nameless, isNegativeNumber, splitAtEquals, splitString, split,
    Bundle.ofWord?, Bundle.ofLetter, Bundle.ofValue, letterName, OptionTable.find?, OptionTable.names,
    List.lookup_cons, checkName, checkOptions, programOptions, givens, CheckCommand.giveAll,
    CheckCommand.give, CheckCommand.withOptions, CheckCommand.readLevel, levelNames, Except.map,
    Except.mapError, bind, Except.bind, pure, Except.pure]

/-- The quiet session shows errors only and the other one all records, so it shows part of that, and the
lines have room for what the records tell. -/
theorem sessions_render_quietly : levelOf (givenTo quietly) = .error ∧
    levelOf (givenTo verbosely) = .debug ∧
    ∃ events₁ events₂ x,
      (Session.ofArguments plainScreen usersWorld [] quietly).Renders plainScreen .error x events₁ ∧
      (Session.ofArguments plainScreen usersWorld [] verbosely).Renders plainScreen .debug x events₂ ∧
      events₁.Sublist events₂ ∧
      ∀ level message, .log level message ∈ events₂ →
        Tells level message (rendered plainScreen (.log level message)) := by
  have hq : levelOf (givenTo quietly) = .error := by decide +kernel
  have hv : levelOf (givenTo verbosely) = .debug := by decide +kernel
  obtain ⟨events₁, events₂, x, -, h₁, h₂, -, -, hpart⟩ :=
    sessions_render read_quietly read_verbosely rfl plainScreen usersWorld []
  rw [hq] at h₁ hpart
  rw [hv] at h₂ hpart
  exact ⟨hq, hv, events₁, events₂, x, h₁, h₂, hpart (by decide), h₂.told (by decide)⟩

end Preflight.CommandLine

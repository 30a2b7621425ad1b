import Mathlib.Data.NNRat.Lemmas
import Mathlib.Tactic.Linarith
import Preflight.Routing.Context

/-!
# Contexts asked over time

A context is called on at one moment after another (`makeAll`); time passes between the calls and within
waits, and each call leaves a context to the next one (`after`), which is cancelled once one of the calls was
to cancel it (`after_cancelled_iff`). What a call gives is settled by the deadline, by whether the context has
been cancelled before and by the moment (`Answers`), and both of the latter only ever go one way (`Before`).
So a context that is done stays done, for a reason that changes from the deadline to the cancelling at most,
and the time that remains never grows (`Lasting`); a wait is over when its time is up, at the deadline at the
latest (`Told`). All of it is put together in `answers_over_time`.
-/

namespace Preflight.Routing

namespace Context

/-- What a context is told or asked. -/
inductive Call
  | cancel
  | err
  | done
  | wait (timeout : Option Time)
  | remaining
  deriving DecidableEq, Repr

/-- A call with what it gave. -/
inductive Exchange
  | cancel
  | err (reason : Option ContextEnd)
  | done (ended : Bool)
  | wait (timeout : Option Time) (ended : Bool)
  | remaining (left : Option Time)
  deriving DecidableEq, Repr

namespace Exchange

def call : Exchange → Call
  | .cancel => .cancel
  | .err _ => .err
  | .done _ => .done
  | .wait timeout _ => .wait timeout
  | .remaining _ => .remaining

/-- Whether the context is done, if the call says so: `done` does, and `wait` when it comes back. -/
def ended? : Exchange → Option Bool
  | .done ended => some ended
  | .wait _ ended => some ended
  | _ => none

end Exchange

/-- An exchange with the moments at which the call was made and came back. -/
structure Entry where
  made : Time
  back : Time
  exchange : Exchange
  deriving DecidableEq, Repr

/-- The context that a call leaves. -/
def Call.leave (c : Context) : Call → Context
  | .cancel => c.cancel
  | _ => c

def after (c : Context) (calls : List Call) : Context := calls.foldl Call.leave c

def make (c : Context) (now : Time) : Call → Option Entry
  | .cancel => some ⟨now, now, .cancel⟩
  | .err => some ⟨now, now, .err (c.err now)⟩
  | .done => some ⟨now, now, .done (c.done now)⟩
  | .wait timeout => (c.wait now timeout).map fun (moment, ended) => ⟨now, moment, .wait timeout ended⟩
  | .remaining => some ⟨now, now, .remaining (c.remaining now)⟩

/-- Makes some calls, each a while after the one before it came back. -/
def makeAll (c : Context) (now : Time) : List (NNRat × Call) → Option (List Entry)
  | [] => some []
  | (pause, call) :: calls =>
    (c.make (now + pause) call).bind fun entry =>
      ((call.leave c).makeAll entry.back calls).map (entry :: ·)

/-- What is to be told of a call on a context. -/
structure Told (c : Context) (e : Entry) : Prop where
  err : ∀ reason, e.exchange = .err reason →
    (reason = none ↔ c.cancelled = false ∧ ∀ d ∈ c.deadline, e.made < d)
  done : ∀ ended, e.exchange = .done ended → (ended = true ↔ c.err e.made ≠ none)
  remaining : ∀ left, e.exchange = .remaining left → (left = none ↔ c.deadline = none) ∧
    ∀ t ∈ left, 0 ≤ t ∧ (t = 0 ↔ ∃ d ∈ c.deadline, d ≤ e.made)
  wait : ∀ timeout ended, e.exchange = .wait timeout ended → ended = c.done e.back ∧
    (ended = true ↔ c.err e.back ≠ none) ∧
    (∀ d ∈ c.deadline, e.back ≤ max e.made d) ∧
    (∀ t ∈ timeout, e.back ≤ e.made + max t 0) ∧
    (ended = false → ∃ t ∈ timeout, e.back = e.made + max t 0)
  back : e.made ≤ e.back

/-- What a call says of the ones after it. -/
structure Lasting (a b : Entry) : Prop where
  time : a.back ≤ b.made
  ended : a.exchange.ended? = some true → b.exchange.ended? ≠ some false
  cancelled : a.exchange = .err (some .cancelled) →
    ∀ reason, b.exchange = .err reason → reason = some .cancelled
  late : a.exchange = .err (some .deadlineExceeded) →
    ∀ reason, b.exchange = .err reason → reason = some .deadlineExceeded ∨ reason = some .cancelled
  shrinks : ∀ s t, a.exchange = .remaining (some s) → b.exchange = .remaining (some t) → t ≤ s

variable {c later : Context} {now moment : Time} {call : Call} {e a b : Entry} {entries : List Entry}

/-! ### Answers at one moment -/

theorem spanFrom_eq (t : Time) : spanFrom t = max t 0 := by
  unfold spanFrom
  split
  · next h => rw [max_eq_right h]
  · next h => rw [max_eq_left (not_le.1 h).le]

theorem err_eq_none_iff : c.err now = none ↔ c.cancelled = false ∧ ∀ d ∈ c.deadline, now < d := by
  obtain ⟨deadline, cancelled⟩ := c
  cases cancelled <;> cases deadline <;> simp [err]

theorem err_eq_cancelled_iff : c.err now = some .cancelled ↔ c.cancelled = true := by
  obtain ⟨deadline, cancelled⟩ := c
  cases cancelled <;> cases deadline <;> simp [err]

theorem done_iff_err : c.done now = true ↔ c.err now ≠ none := Option.isSome_iff_ne_none

theorem done_iff : c.done now = true ↔ c.cancelled = true ∨ ∃ d ∈ c.deadline, d ≤ now := by
  rw [done_iff_err, Ne, err_eq_none_iff, not_and_or, Bool.not_eq_false]
  simp

theorem remaining_eq (c : Context) (now : Time) :
    c.remaining now = c.deadline.map fun d => max (d - now) 0 := by
  simp only [remaining, spanFrom_eq]

theorem wait_eq_some_iff (hc : c.cancelled = false) {timeout : Option Time} {ended : Bool} :
    c.wait now timeout = some (moment, ended) ↔
      ∃ span ∈ c.allowance now timeout, moment = now + max span 0 ∧ ended = c.done moment := by
  simp only [wait, hc, Bool.false_eq_true, if_false, Option.map_eq_some_iff, Prod.mk.injEq, spanFrom_eq]
  constructor
  · rintro ⟨span, hspan, rfl, rfl⟩
    exact ⟨span, hspan, rfl, rfl⟩
  · rintro ⟨span, hspan, rfl, rfl⟩
    exact ⟨span, hspan, rfl, rfl⟩

/-- What a wait is allowed goes neither beyond the deadline nor beyond its time, and comes up to one of
them. -/
theorem allowance_cases {timeout : Option Time} {span : Time} (h : c.allowance now timeout = some span) :
    (∀ d ∈ c.deadline, span ≤ max (d - now) 0) ∧ (∀ t ∈ timeout, span ≤ t) ∧
      ((∃ d ∈ c.deadline, span = max (d - now) 0) ∨ timeout = some span) := by
  cases timeout with
  | none =>
    rw [allowance, remaining_eq] at h
    obtain ⟨d, hd, rfl⟩ := Option.map_eq_some_iff.1 h
    refine ⟨fun d' hd' => ?_, by simp, .inl ⟨d, hd, rfl⟩⟩
    rw [Option.mem_unique hd hd']
  | some t =>
    rw [allowance, remaining_eq] at h
    cases hd : c.deadline with
    | none =>
      simp only [hd, Option.map_none, Option.some.injEq] at h
      simp [h]
    | some d =>
      simp only [hd, Option.map_some, Option.some.injEq] at h
      by_cases ht : t ≤ max (d - now) 0
      · rw [if_pos ht] at h
        subst h
        exact ⟨fun d' hd' => by rwa [← Option.some.inj hd'], fun t' ht' => (Option.some.inj ht').le,
          .inr rfl⟩
      · rw [if_neg ht] at h
        subst h
        refine ⟨fun d' hd' => by rw [← Option.some.inj hd'], fun t' ht' => ?_, .inl ⟨d, rfl, rfl⟩⟩
        rw [← Option.some.inj ht']
        exact (not_le.1 ht).le

/-- A wait ends with what is the case then. It never ends before it began, after the deadline or after its
time, and unless the context is done it lasts all of it. -/
theorem told_wait {timeout : Option Time} {ended : Bool} (h : c.wait now timeout = some (moment, ended)) :
    now ≤ moment ∧ ended = c.done moment ∧ (∀ d ∈ c.deadline, moment ≤ max now d) ∧
      (∀ t ∈ timeout, moment ≤ now + max t 0) ∧
      (ended = false → ∃ t ∈ timeout, moment = now + max t 0) := by
  by_cases hc : c.cancelled = true
  · obtain ⟨rfl, rfl⟩ : now = moment ∧ true = ended := by simpa [wait, hc] using h
    refine ⟨le_rfl, (done_iff.2 (.inl hc)).symm, fun d _ => le_max_left _ _, fun t _ => ?_, by simp⟩
    linarith [le_max_right t 0]
  · rw [Bool.not_eq_true] at hc
    obtain ⟨span, hspan, rfl, rfl⟩ := (wait_eq_some_iff hc).1 h
    obtain ⟨hdeadline, htimeout, hone⟩ := allowance_cases hspan
    have hup : ∀ d, now + max (max (d - now) 0) 0 = max now d := fun d => by
      rw [max_eq_left (le_max_right (d - now) 0), ← max_add_add_left, add_zero, add_sub_cancel, max_comm]
    have hlong : now ≤ now + max span 0 := by linarith [le_max_right span 0]
    refine ⟨hlong, rfl, fun d hd => ?_, fun t ht => ?_, fun hended => ?_⟩
    · rw [← hup d]
      exact add_le_add_right (max_le_max_right 0 (hdeadline d hd)) now
    · exact add_le_add_right (max_le_max_right 0 (htimeout t ht)) now
    · rcases hone with ⟨d, hd, rfl⟩ | rfl
      · -- it lasted until the deadline
        have hdone : c.done (now + max (max (d - now) 0) 0) = true :=
          done_iff.2 (.inr ⟨d, hd, by rw [hup]; exact le_max_right now d⟩)
        rw [hdone] at hended
        exact absurd hended (by decide)
      · exact ⟨span, rfl, rfl⟩

theorem wait_eq_none_iff {timeout : Option Time} :
    c.wait now timeout = none ↔ timeout = none ∧ c.deadline = none ∧ c.cancelled = false := by
  obtain ⟨deadline, cancelled⟩ := c
  cases cancelled <;> cases deadline <;> cases timeout <;> simp [wait, allowance, remaining]

/-! ### Calls -/

/-- Whether one context is another one, or the other one after it was cancelled. -/
structure Before (c later : Context) : Prop where
  deadline : later.deadline = c.deadline
  cancelled : c.cancelled = true → later.cancelled = true

theorem leave_deadline (c : Context) (call : Call) : (call.leave c).deadline = c.deadline := by
  cases call <;> rfl

theorem leave_cancelled_iff :
    (call.leave c).cancelled = true ↔ c.cancelled = true ∨ call = .cancel := by
  cases call <;> simp [Call.leave, cancel]

@[simp] theorem after_nil (c : Context) : c.after [] = c := rfl

@[simp] theorem after_cons (c : Context) (call : Call) (calls : List Call) :
    c.after (call :: calls) = (call.leave c).after calls := rfl

theorem after_deadline (c : Context) (calls : List Call) : (c.after calls).deadline = c.deadline := by
  induction calls generalizing c with
  | nil => rfl
  | cons call calls ih => rw [after_cons, ih, leave_deadline]

theorem after_cancelled_iff (c : Context) (calls : List Call) :
    (c.after calls).cancelled = true ↔ c.cancelled = true ∨ Call.cancel ∈ calls := by
  induction calls generalizing c with
  | nil => simp
  | cons call calls ih => rw [after_cons, ih, leave_cancelled_iff, List.mem_cons, or_assoc, @eq_comm _ call]

theorem before_after (c : Context) (calls : List Call) : c.Before (c.after calls) where
  deadline := after_deadline c calls
  cancelled h := (after_cancelled_iff c calls).2 (.inl h)

/-- A context that is done is so later on, and after it was cancelled. -/
theorem Before.done (h : c.Before later) (ht : now ≤ moment) (hd : c.done now = true) :
    later.done moment = true := by
  rw [done_iff] at hd ⊢
  rw [h.deadline]
  rcases hd with hc | ⟨d, hd, hle⟩
  · exact .inl (h.cancelled hc)
  · exact .inr ⟨d, hd, hle.trans ht⟩

/-- What a call gives on a context: the answer at the moment it is made, or at the end of the wait. -/
def Answers (c : Context) (e : Entry) : Prop :=
  match e.exchange with
  | .cancel => e.back = e.made
  | .err reason => e.back = e.made ∧ reason = c.err e.made
  | .done ended => e.back = e.made ∧ ended = c.done e.made
  | .wait timeout ended => c.wait e.made timeout = some (e.back, ended)
  | .remaining left => e.back = e.made ∧ left = c.remaining e.made

theorem answers_of_make (h : c.make now call = some e) :
    e.made = now ∧ e.exchange.call = call ∧ c.Answers e := by
  cases call with
  | wait timeout =>
    obtain ⟨⟨moment, ended⟩, hw, rfl⟩ := Option.map_eq_some_iff.1 h
    exact ⟨rfl, rfl, hw⟩
  | cancel | err | done | remaining =>
    cases h
    simp [Exchange.call, Answers]

theorem make_eq_none_iff :
    c.make now call = none ↔ call = .wait none ∧ c.deadline = none ∧ c.cancelled = false := by
  cases call with
  | wait timeout => simp [make, wait_eq_none_iff]
  | cancel | err | done | remaining => simp [make]

namespace Answers

theorem err (h : c.Answers e) {reason : Option ContextEnd} (he : e.exchange = .err reason) :
    reason = c.err e.made := by
  simp only [Answers, he] at h
  exact h.2

theorem remaining (h : c.Answers e) {left : Option Time} (he : e.exchange = .remaining left) :
    left = c.remaining e.made := by
  simp only [Answers, he] at h
  exact h.2

theorem back (h : c.Answers e) : e.made ≤ e.back := by
  unfold Answers at h
  split at h
  · exact h.ge
  · exact h.1.ge
  · exact h.1.ge
  · exact (told_wait h).1
  · exact h.1.ge

theorem ended (h : c.Answers e) {ended : Bool} (he : e.exchange.ended? = some ended) :
    ended = c.done e.back := by
  unfold Answers at h
  split at h
  · next hx => simp [hx, Exchange.ended?] at he
  · next hx => simp [hx, Exchange.ended?] at he
  · next hx =>
    obtain rfl : _ = ended := by simpa [hx, Exchange.ended?] using he
    rw [h.1]
    exact h.2
  · next hx =>
    obtain rfl : _ = ended := by simpa [hx, Exchange.ended?] using he
    exact (told_wait h).2.1
  · next hx => simp [hx, Exchange.ended?] at he

theorem told (h : c.Answers e) : c.Told e where
  err reason he := by rw [h.err he, err_eq_none_iff]
  done ended he := by
    simp only [Answers, he] at h
    rw [h.2, done_iff_err]
  remaining left he := by
    rw [h.remaining he, remaining_eq]
    refine ⟨Option.map_eq_none_iff, fun t ht => ?_⟩
    obtain ⟨d, hd, rfl⟩ := Option.map_eq_some_iff.1 ht
    refine ⟨le_max_right _ _, ?_⟩
    rw [max_eq_right_iff, sub_nonpos]
    constructor
    · exact fun hle => ⟨d, hd, hle⟩
    · rintro ⟨d', hd', hle⟩
      rwa [Option.mem_unique hd hd']
  wait timeout ended he := by
    simp only [Answers, he] at h
    obtain ⟨-, hended, hspan⟩ := told_wait h
    exact ⟨hended, by rw [hended, done_iff_err], hspan⟩
  back := h.back

/-- A call on a context says what it does of a call on the context later on. -/
theorem lasting (ha : c.Answers a) (hb : later.Answers b) (h : c.Before later) (ht : a.back ≤ b.made) :
    Lasting a b where
  time := ht
  ended hx hy := by
    have hdone : c.done a.back = true := (ha.ended hx).symm
    have hundone : later.done b.back = false := (hb.ended hy).symm
    rw [h.done (ht.trans hb.back) hdone] at hundone
    exact absurd hundone (by decide)
  cancelled hx reason hy := by
    rw [hb.err hy]
    exact err_eq_cancelled_iff.2 (h.cancelled (err_eq_cancelled_iff.1 (ha.err hx).symm))
  late hx reason hy := by
    have hdone : later.done b.made = true := by
      refine h.done (ha.back.trans ht) ?_
      rw [Context.done, ← ha.err hx]
      rfl
    rw [hb.err hy]
    cases hr : later.err b.made with
    | none => simp [Context.done, hr] at hdone
    | some reason => cases reason <;> simp
  shrinks s t hx hy := by
    have hs := (ha.remaining hx).symm
    have hl := (hb.remaining hy).symm
    rw [remaining_eq, Option.map_eq_some_iff] at hs hl
    obtain ⟨d, hd, rfl⟩ := hs
    obtain ⟨d', hd', rfl⟩ := hl
    rw [h.deadline] at hd'
    rw [Option.mem_unique hd' hd]
    exact max_le_max_right 0 (sub_le_sub_left (ha.back.trans ht) d)

end Answers

/-! ### One call after another -/

theorem makeAll_cons_eq_some {pause : NNRat} {calls : List (NNRat × Call)}
    (h : c.makeAll now ((pause, call) :: calls) = some entries) :
    ∃ e rest, entries = e :: rest ∧ e.made = now + pause ∧ e.exchange.call = call ∧ c.Answers e ∧
      (e.exchange.call.leave c).makeAll e.back calls = some rest := by
  obtain ⟨e, he, h⟩ := Option.bind_eq_some_iff.1 h
  obtain ⟨rest, hrest, rfl⟩ := Option.map_eq_some_iff.1 h
  obtain ⟨hmade, hcall, hanswers⟩ := answers_of_make he
  exact ⟨e, rest, rfl, hmade, hcall, hanswers, by rwa [hcall]⟩

variable {calls : List (NNRat × Call)}

theorem calls_of_makeAll (h : c.makeAll now calls = some entries) :
    entries.map (·.exchange.call) = calls.map (·.2) := by
  induction calls generalizing c now entries with
  | nil =>
    cases h
    rfl
  | cons p calls ih =>
    obtain ⟨e, rest, rfl, -, hcall, -, hrest⟩ := makeAll_cons_eq_some h
    rw [List.map_cons, List.map_cons, hcall, ih hrest]

/-- Each call is answered at its place: by the context as the calls before it have left it. -/
theorem answers_of_makeAll (h : c.makeAll now calls = some entries) (before rest : List Entry) (e : Entry)
    (he : entries = before ++ e :: rest) :
    now ≤ e.made ∧ (c.after (before.map (·.exchange.call))).Answers e := by
  induction calls generalizing c now entries before with
  | nil =>
    cases h
    simp at he
  | cons p calls ih =>
    obtain ⟨first, others, rfl, hmade, -, hanswers, hothers⟩ := makeAll_cons_eq_some h
    have hnow : now ≤ first.made := by
      rw [hmade]
      exact le_add_of_nonneg_right p.1.2
    cases before with
    | nil =>
      obtain ⟨rfl, -⟩ := List.cons.inj he
      exact ⟨hnow, hanswers⟩
    | cons head before =>
      obtain ⟨rfl, htail⟩ := List.cons.inj he
      obtain ⟨hback, hlater⟩ := ih hothers before htail
      exact ⟨(hnow.trans hanswers.back).trans hback, hlater⟩

theorem pairwise_of_makeAll (h : c.makeAll now calls = some entries) : entries.Pairwise Lasting := by
  induction calls generalizing c now entries with
  | nil =>
    cases h
    exact .nil
  | cons p calls ih =>
    obtain ⟨e, rest, rfl, -, -, hanswers, hrest⟩ := makeAll_cons_eq_some h
    refine List.pairwise_cons.2 ⟨fun b hb => ?_, ih hrest⟩
    -- the calls between the two leave the context that the later one is made on
    obtain ⟨before, after, hb⟩ := List.append_of_mem hb
    obtain ⟨hback, hlater⟩ := answers_of_makeAll hrest before after b hb
    have hlasts : c.Before (c.after ((e :: before).map (·.exchange.call))) := before_after _ _
    exact hanswers.lasting hlater hlasts hback

theorem leave_not_cancelled_iff :
    (call.leave c).cancelled = false ↔ c.cancelled = false ∧ call ≠ .cancel := by
  rw [← Bool.not_eq_true, leave_cancelled_iff, not_or, Bool.not_eq_true]

theorem makeAll_eq_none_iff : c.makeAll now calls = none ↔
    c.deadline = none ∧ c.cancelled = false ∧ ∃ before pause rest,
      calls = before ++ (pause, .wait none) :: rest ∧ ∀ p ∈ before, p.2 ≠ .cancel := by
  induction calls generalizing c now with
  | nil => simp [makeAll]
  | cons p calls ih =>
    obtain ⟨pause, call⟩ := p
    cases hm : c.make (now + pause) call with
    | none =>
      obtain ⟨rfl, hd, hc⟩ := make_eq_none_iff.1 hm
      simp only [makeAll, hm, Option.bind_none, true_iff]
      exact ⟨hd, hc, [], pause, calls, rfl, List.forall_mem_nil _⟩
    | some e =>
      simp only [makeAll, hm, Option.bind_some, Option.map_eq_none_iff, ih, leave_deadline,
        leave_not_cancelled_iff]
      constructor
      · rintro ⟨hd, ⟨hc, hne⟩, before, other, rest, rfl, hall⟩
        exact ⟨hd, hc, (pause, call) :: before, other, rest, rfl, List.forall_mem_cons.2 ⟨hne, hall⟩⟩
      · rintro ⟨hd, hc, before, other, rest, heq, hall⟩
        cases before with
        | nil =>
          -- such a wait would not have come back
          obtain ⟨hhead, -⟩ := List.cons.inj heq
          obtain rfl : call = .wait none := congrArg Prod.snd hhead
          rw [make_eq_none_iff.2 ⟨rfl, hd, hc⟩] at hm
          cases hm
        | cons head before =>
          obtain ⟨rfl, rfl⟩ := List.cons.inj heq
          obtain ⟨hne, hall⟩ := List.forall_mem_cons.1 hall
          exact ⟨hd, ⟨hc, hne⟩, before, other, rest, rfl, hall⟩

/-- Of a context that is called on over time: all calls are answered unless one is a wait without a time, on
a context that has no deadline and was not cancelled; and then each of them is answered as it should be at
its place, where the context has been cancelled if it was at the start or by a call before, and says what it
should of all later ones. -/
theorem answers_over_time (c : Context) (start : Time) (calls : List (NNRat × Call)) :
    (c.makeAll start calls = none ↔ c.deadline = none ∧ c.cancelled = false ∧ ∃ before pause rest,
      calls = before ++ (pause, .wait none) :: rest ∧ ∀ p ∈ before, p.2 ≠ .cancel) ∧
    ∀ entries, c.makeAll start calls = some entries →
      entries.map (·.exchange.call) = calls.map (·.2) ∧
      entries.Pairwise Lasting ∧
      ∀ before e rest, entries = before ++ e :: rest → ∃ left : Context,
        left = c.after (before.map (·.exchange.call)) ∧ left.deadline = c.deadline ∧
        (left.cancelled = true ↔ c.cancelled = true ∨ ∃ a ∈ before, a.exchange.call = .cancel) ∧
        left.Told e := by
  refine ⟨makeAll_eq_none_iff, fun _ h => ⟨calls_of_makeAll h, pairwise_of_makeAll h,
    fun before e rest he => ⟨_, rfl, after_deadline _ _, ?_, (answers_of_makeAll h before rest e he).2.told⟩⟩⟩
  rw [after_cancelled_iff, List.mem_map]

/-- A wait beyond the deadline comes back at the deadline; cancelling changes the reason. -/
example : (withTimeout 0 2).makeAll 1 [(0, .wait (some 5)), (0, .err), (0, .cancel), (0, .err)] =
    some [⟨1, 2, .wait (some 5) true⟩, ⟨2, 2, .err (some .deadlineExceeded)⟩, ⟨2, 2, .cancel⟩,
      ⟨2, 2, .err (some .cancelled)⟩] := by decide +kernel

end Context

end Preflight.Routing

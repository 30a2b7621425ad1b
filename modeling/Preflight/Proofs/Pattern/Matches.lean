import Preflight.Proofs.Pattern.Remainders

/-!
# Where a match ends

`Remainders` tells whether a pattern matches; here the match itself is told, with the place it leads to.
One or more characters of a set, followed by what begins with no character of that set, are all that
stand there (`run_oneOrMore`): to give one back never helps.
-/

namespace Preflight.Pattern

variable {holds : Char → Bool} {negated ascii : Bool} {members : List Member} {k : Next} {s : Place}

def Place.start (text : String) : Place := ⟨0, [], text.toList, []⟩

def Place.past (s : Place) (holds : Char → Bool) : Place where
  position := s.position + (s.rest.takeWhile holds).length
  before := (s.rest.takeWhile holds).reverse ++ s.before
  rest := s.rest.dropWhile holds
  groups := s.groups

/-- A set, which may be negated, takes the characters of a kind. -/
def Takes (negated : Bool) (members : List Member) (ascii : Bool) (holds : Char → Bool) : Prop :=
  ∀ c, (members.any (Member.holds false ascii c) != negated) = holds c

/-- Whatever begins with a character of a kind is refused. -/
def Refuses (k : Next) (holds : Char → Bool) : Prop :=
  ∀ s c rest, s.rest = c :: rest → holds c = true → k s = none

theorem Accepts.takes (h : Accepts members ascii holds) : Takes false members ascii holds := by
  intro c
  rw [Bool.bne_false, h c]

theorem run_seq (first second : Regex) (s : Place) (k : Next) :
    (Regex.seq first second).run s k = first.run s fun t => second.run t k := rfl

theorem run_group (index : Nat) (body : Regex) (s : Place) (k : Next) :
    (Regex.group index body).run s k = body.run s fun t => k (s.capture t index) := rfl

theorem run_set_nil (hs : s.rest = []) : (Regex.set negated members false ascii).run s k = none := by
  simp only [Regex.run, hs]

theorem run_set_cons (h : Takes negated members ascii holds) {c : Char} {rest : List Char}
    (hs : s.rest = c :: rest) : (Regex.set negated members false ascii).run s k =
      if holds c then k (s.step c rest) else none := by
  simp only [Regex.run, hs, h c]

theorem past_eq_self (h : s.rest.takeWhile holds = []) : s.past holds = s := by
  have hr : s.rest.dropWhile holds = s.rest := by
    simpa [h] using List.takeWhile_append_dropWhile (p := holds) (l := s.rest)
  rw [Place.past, h, hr]
  rfl

theorem past_step {c : Char} {rest : List Char} (hs : s.rest = c :: rest) (hc : holds c = true) :
    (s.step c rest).past holds = s.past holds := by
  simp [Place.past, Place.step, hs, hc, Nat.add_assoc, Nat.add_comm 1]

/-- A group around characters of a kind holds them. -/
theorem lookup_capture_past (s : Place) (holds : Char → Bool) (index : Nat) :
    (s.capture (s.past holds) index).groups.lookup index = some (s.rest.takeWhile holds) := by
  have hlength : (s.past holds).position - s.position = (s.rest.takeWhile holds).length :=
    Nat.add_sub_cancel_left _ _
  have htaken : s.rest.take (s.rest.takeWhile holds).length = s.rest.takeWhile holds :=
    (List.prefix_iff_eq_take.mp (List.takeWhile_prefix holds)).symm
  show List.lookup index ((index, s.rest.take ((s.past holds).position - s.position)) :: _) = _
  rw [hlength, htaken, List.lookup_cons_self]

/-- Once there were enough rounds, a greedy repetition goes on to the end of the characters it can take. -/
theorem greedyLoop_eq (h : Takes negated members ascii holds) (hk : Refuses k holds) (fuel : Nat) :
    ∀ (count : Nat) (last : Option Nat) (s : Place), 1 ≤ count → s.rest.length < fuel →
      last ≠ some s.position →
      greedyLoop (Regex.set negated members false ascii).run 1 none k fuel count last s =
        k (s.past holds) := by
  induction fuel with
  | zero => exact fun _ _ _ _ hf => absurd hf (Nat.not_lt_zero _)
  | succ fuel ih =>
    intro count last s hcount hf hl
    have hgo : (allows none count && last != some s.position) = true := by simpa [allows] using hl
    rw [greedyLoop, if_neg (Nat.not_lt.mpr hcount), if_pos hgo]
    cases hs : s.rest with
    | nil => rw [run_set_nil hs, Option.none_or, past_eq_self (by rw [hs]; rfl)]
    | cons c rest =>
      rw [run_set_cons h hs]
      cases hc : holds c with
      | false => rw [if_neg Bool.false_ne_true, Option.none_or, past_eq_self (by simp [hs, hc])]
      | true =>
        have hround := ih (count + 1) (some s.position) (s.step c rest) (Nat.le_add_left 1 count)
          (by rw [hs] at hf; exact Nat.lt_of_succ_lt_succ hf) (by simp [Place.step])
        rw [if_pos rfl, hround, past_step hs hc, hk s c rest hs hc, Option.or_none]

theorem run_oneOrMore (h : Takes negated members ascii holds) (hk : Refuses k holds) (s : Place) :
    (Regex.repeated 1 none .greedy (.set negated members false ascii)).run s k =
      if s.rest.takeWhile holds = [] then none else k (s.past holds) := by
  show greedyLoop _ 1 none k (1 + s.rest.length + 3) 0 none s = _
  rw [greedyLoop, if_pos Nat.one_pos]
  cases hs : s.rest with
  | nil => rw [run_set_nil hs, List.takeWhile_nil, if_pos rfl]
  | cons c rest =>
    rw [run_set_cons h hs]
    cases hc : holds c with
    | false => simp [hc]
    | true =>
      have hround := greedyLoop_eq h hk (1 + (c :: rest).length + 2) 1 none (s.step c rest) (Nat.le_refl 1)
        (by simp only [Place.step, List.length_cons]; omega) (by simp)
      rw [if_pos rfl, List.takeWhile_cons_of_pos hc, if_neg (List.cons_ne_nil _ _), ← past_step hs hc]
      exact hround

end Preflight.Pattern

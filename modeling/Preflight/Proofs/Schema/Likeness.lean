import Preflight.Proofs.Gateway.Reading
import Preflight.Schema.Compiled

/-!
# Two evaluations side by side

Two searches are alike (`Search.Alike`) when they show the same events and come to results that
correspond: values by one relation, reasons to stop by another. Two traces are alike (`Trace.Alike`)
when they show the same events, find the same things and stop for reasons that correspond. Whatever is
put together from parts that are alike is alike.
-/

namespace Preflight.Schema

open Gateway Json

variable {α β γ δ : Type} {S : Stop → Stop → Prop} {A : α → β → Prop} {B : γ → δ → Prop}

/-- Results that correspond. -/
inductive ResultsAlike (S : Stop → Stop → Prop) (A : α → β → Prop) :
    Except Stop α → Except Stop β → Prop
  | ok {a : α} {b : β} : A a b → ResultsAlike S A (.ok a) (.ok b)
  | error {r s : Stop} : S r s → ResultsAlike S A (.error r) (.error s)

/-- The same events, and results that correspond. -/
structure Search.Alike (S : Stop → Stop → Prop) (A : α → β → Prop) (x : Search α) (y : Search β) :
    Prop where
  events : x.events = y.events
  result : ResultsAlike S A x.result y.result

theorem ResultsAlike.imp {B : α → β → Prop} {r : Except Stop α} {s : Except Stop β}
    (h : ResultsAlike S A r s) (hab : ∀ a b, A a b → B a b) : ResultsAlike S B r s := by
  cases h with
  | ok ha => exact .ok (hab _ _ ha)
  | error hs => exact .error hs

theorem ResultsAlike.mapError {r : Except Stop α} {s : Except Stop β} {f : Stop → Stop}
    (h : ResultsAlike S A r s) (hf : ∀ r s, S r s → S (f r) (f s)) :
    ResultsAlike S A (r.mapError f) (s.mapError f) := by
  cases h with
  | ok hab => exact .ok hab
  | error hrs => exact .error (hf _ _ hrs)

theorem ResultsAlike.map {r s : Except Stop α} (h : ResultsAlike S Eq r s) (f : α → γ) :
    ResultsAlike S Eq (r.map f) (s.map f) := by
  cases h with
  | ok hab => exact .ok (congrArg f hab)
  | error hrs => exact .error hrs

theorem ResultsAlike.both {r : Except Stop α} {s : Except Stop β} (h : ResultsAlike S A r s) :
    (∃ a b, r = .ok a ∧ s = .ok b ∧ A a b) ∨ ∃ p q, r = .error p ∧ s = .error q ∧ S p q := by
  cases h with
  | ok hab => exact .inl ⟨_, _, rfl, rfl, hab⟩
  | error hrs => exact .inr ⟨_, _, rfl, rfl, hrs⟩

namespace Search

theorem alike_pure {a : α} {b : β} (h : A a b) : Alike S A (pure a) (pure b) := ⟨rfl, .ok h⟩

theorem Alike.imp {B : α → β → Prop} {x : Search α} {y : Search β} (h : Alike S A x y)
    (hab : ∀ a b, A a b → B a b) : Alike S B x y := ⟨h.events, h.result.imp hab⟩

theorem alike_fail {r s : Stop} (h : S r s) : Alike S A (.fail r) (.fail s) := ⟨rfl, .error h⟩

theorem alike_refl (hs : ∀ r, S r r) (x : Search α) :
    Alike S (fun a b => a = b ∧ x.result = .ok a) x x := by
  refine ⟨rfl, ?_⟩
  cases h : x.result with
  | ok a => exact .ok ⟨rfl, rfl⟩
  | error r => exact .error (hs r)

theorem alike_bind {x : Search α} {y : Search β} {f : α → Search γ} {g : β → Search δ}
    (h : Alike S A x y) (hf : ∀ a b, A a b → Alike S B (f a) (g b)) :
    Alike S B (x >>= f) (y >>= g) := by
  obtain ⟨he, hr⟩ := h
  rcases hr.both with ⟨a, b, hx, hy, hab⟩ | ⟨r, s, hx, hy, hrs⟩
  · obtain ⟨hfe, hfr⟩ := hf a b hab
    rw [Run.bind_of_ok f hx, Run.bind_of_ok g hy]
    exact ⟨by rw [he, hfe], hfr⟩
  · rw [Run.bind_of_error f hx, Run.bind_of_error g hy]
    exact ⟨he, .error hrs⟩

theorem alike_ite {x x' : Search α} {y y' : Search β} (b : Bool) (h : Alike S A x y)
    (h' : Alike S A x' y') : Alike S A (if b then x else x') (if b then y else y') := by
  cases b with
  | true => exact h
  | false => exact h'

theorem alike_mapError {f : Stop → Stop} (hf : ∀ r s, S r s → S (f r) (f s)) {x : Search α}
    {y : Search β} (h : Alike S A x y) : Alike S A (x.mapError f) (y.mapError f) :=
  ⟨h.events, h.result.mapError hf⟩

end Search

namespace Trace

/-- The same events and findings, and reasons to stop that correspond. -/
inductive Alike (S : Stop → Stop → Prop) : Trace → Trace → Prop
  | done : Alike S .done .done
  | stop {r s : Stop} : S r s → Alike S (.stop r) (.stop s)
  | event (e : Event) {next next' : Unit → Trace} :
      Alike S (next ()) (next' ()) → Alike S (.event e next) (.event e next')
  | finding (x : Finding) {next next' : Unit → Trace} :
      Alike S (next ()) (next' ()) → Alike S (.finding x next) (.finding x next')

theorem alike_report (x : Finding) : Alike S (report x) (report x) := .finding x .done

theorem alike_say (message : String) : Alike S (say message) (say message) := alike_report _

theorem alike_sayIf (fails : Bool) (message : String) :
    Alike S (sayIf fails message) (sayIf fails message) := by
  cases fails with
  | false => exact .done
  | true => exact alike_say message

theorem alike_ofVerdict (hm : ∀ m, S (.mishap m) (.mishap m)) (v : Verdict) :
    Alike S (ofVerdict v) (ofVerdict v) := by
  cases v with
  | error m => exact .stop (hm m)
  | ok message =>
    cases message with
    | none => exact .done
    | some message => exact alike_report _

theorem alike_ite {t t' u u' : Trace} {c : Prop} [Decidable c] (h : Alike S t u)
    (h' : Alike S t' u') : Alike S (if c then t else t') (if c then u else u') := by
  split
  · exact h
  · exact h'

theorem alike_followedBy {t u : Trace} {k l : Unit → Trace} (h : Alike S t u)
    (hk : Alike S (k ()) (l ())) : Alike S (t.followedBy k) (u.followedBy l) := by
  induction h with
  | done => exact hk
  | stop hr => exact .stop hr
  | event e _ ih => exact .event e ih
  | finding x _ ih => exact .finding x ih

theorem alike_each {f g : α → Trace} {l : List α} (h : ∀ a ∈ l, Alike S (f a) (g a)) :
    Alike S (each f l) (each g l) := by
  induction l with
  | nil => exact .done
  | cons a l ih =>
    obtain ⟨ha, hl⟩ := List.forall_mem_cons.mp h
    exact alike_followedBy ha (ih hl)

theorem alike_map {f : Finding → Finding} {t u : Trace} (h : Alike S t u) :
    Alike S (t.map f) (u.map f) := by
  induction h with
  | done => exact .done
  | stop hr => exact .stop hr
  | event e _ ih => exact .event e ih
  | finding x _ ih => exact .finding (f x) ih

theorem alike_foldr_event (events : List Event) {t u : Trace} (h : Alike S t u) :
    Alike S (events.foldr (fun e t => .event e fun _ => t) t)
      (events.foldr (fun e t => .event e fun _ => t) u) := by
  induction events with
  | nil => exact h
  | cons e events ih => exact .event e ih

theorem alike_after {x : Search α} {y : Search β} {k : α → Trace} {l : β → Trace}
    (h : Search.Alike S A x y) (hk : ∀ a b, A a b → Alike S (k a) (l b)) :
    Alike S (after x k) (after y l) := by
  obtain ⟨he, hr⟩ := h
  unfold after
  rw [he]
  refine alike_foldr_event _ ?_
  rcases hr.both with ⟨a, b, hx, hy, hab⟩ | ⟨r, s, hx, hy, hrs⟩
  · rw [hx, hy]
    exact hk a b hab
  · rw [hx, hy]
    exact .stop hrs

theorem alike_first? {t u : Trace} (h : Alike S t u) : Search.Alike S Eq t.first? u.first? := by
  induction h with
  | done => exact ⟨rfl, .ok rfl⟩
  | stop hr => exact ⟨rfl, .error hr⟩
  | event e _ ih => exact ⟨congrArg (e :: ·) ih.events, ih.result⟩
  | finding x _ _ => exact ⟨rfl, .ok rfl⟩

theorem alike_isClean {t u : Trace} (h : Alike S t u) : Search.Alike S Eq t.isClean u.isClean := by
  refine Search.alike_bind (alike_first? h) fun x y hxy => ?_
  rw [hxy]
  exact Search.alike_pure rfl

theorem alike_findings {t u : Trace} (h : Alike S t u) :
    Search.Alike S Eq t.findings u.findings := by
  induction h with
  | done => exact ⟨rfl, .ok rfl⟩
  | stop hr => exact ⟨rfl, .error hr⟩
  | event e _ ih => exact ⟨congrArg (e :: ·) ih.events, ih.result⟩
  | finding x _ ih => exact ⟨ih.events, ih.result.map (x :: ·)⟩

/-- Traces that are alike with the same reasons to stop are the same. -/
theorem eq_of_alike {t u : Trace} (h : Alike Eq t u) : t = u := by
  induction h with
  | done => rfl
  | stop hr => rw [hr]
  | event e _ ih => exact congrArg (event e) (funext fun _ => ih)
  | finding x _ ih => exact congrArg (finding x) (funext fun _ => ih)

theorem alike_of_eq {t u : Trace} (h : t = u) : Alike Eq t u := by
  subst h
  induction t with
  | done => exact .done
  | stop reason => exact .stop rfl
  | event e next ih => exact .event e (ih ())
  | finding x next ih => exact .finding x (ih ())

theorem each_filter {f : α → Trace} {p : α → Bool} (h : ∀ a, p a = false → f a = .done)
    (l : List α) : each f (l.filter p) = each f l := by
  induction l with
  | nil => rfl
  | cons a l ih =>
    cases hp : p a with
    | true => rw [List.filter_cons_of_pos hp, each, each, ih]
    | false =>
      rw [List.filter_cons_of_neg (by rw [hp]; decide), each, h a hp, ih]
      rfl

end Trace

end Preflight.Schema

import Preflight.Source.Loader

/-!
# What loading shows

`Run.Shows p` says that every event of a computation is as `p` tells. Computations put together show
what their parts show (`shows_bind`, `shows_mapError`). Loading a document logs, reads and makes
requests, whose responses it handles as they should be (`Handled`, `shows_load`, `shows_loadSchema`);
it prints nothing (`load_silent`, `loadSchema_silent`).
-/

namespace Preflight

def Event.printed? : Event → Option String
  | .print text => some text
  | _ => none

def Event.requested? : Event → Option Request
  | .request r => some r
  | _ => none

def Event.Silent (e : Event) : Prop := e.printed? = none

def Event.Offline (e : Event) : Prop := e.requested? = none

namespace Run

variable {ε ε' α β γ : Type} {p : Event → Prop} {g : Event → Option γ}

/-- Every event of the computation is as told. -/
def Shows (p : Event → Prop) (x : Run ε α) : Prop := ∀ e ∈ x.events, p e

theorem Shows.imp {q : Event → Prop} {x : Run ε α} (h : x.Shows p) (hpq : ∀ e, p e → q e) :
    x.Shows q := fun e he => hpq e (h e he)

def select (g : Event → Option γ) (x : Run ε α) : List γ := x.events.filterMap g

def prints (x : Run ε α) : List String := x.events.filterMap Event.printed?

theorem requests_eq (x : Run ε α) : x.requests = x.select Event.requested? := rfl

theorem shows_pure (a : α) : (pure a : Run ε α).Shows p := fun _ he => absurd he List.not_mem_nil

theorem shows_fail (e : ε) : (fail e : Run ε α).Shows p := fun _ he => absurd he List.not_mem_nil

theorem shows_ofExcept (r : Except ε α) : (ofExcept r).Shows p :=
  fun _ he => absurd he List.not_mem_nil

theorem shows_emit {e : Event} (h : p e) : (emit e : Run ε Unit).Shows p := by
  intro e' he
  rw [List.mem_singleton.mp he]
  exact h

theorem shows_bind {x : Run ε α} {f : α → Run ε β} (hx : x.Shows p) (hf : ∀ a, (f a).Shows p) :
    (x >>= f).Shows p := by
  cases h : x.result with
  | ok a =>
    rw [bind_of_ok f h]
    intro e he
    rcases List.mem_append.mp he with he | he
    · exact hx e he
    · exact hf a e he
  | error e =>
    rw [bind_of_error f h]
    exact hx

theorem shows_ite {c : Prop} [Decidable c] {x y : Run ε α} (hx : x.Shows p) (hy : y.Shows p) :
    (if c then x else y).Shows p := by
  split
  · exact hx
  · exact hy

theorem shows_mapError {f : ε → ε'} {x : Run ε α} (h : x.Shows p) : (x.mapError f).Shows p := h

theorem select_bind_of_ok {x : Run ε α} {a : α} {f : α → Run ε β} (h : x.result = .ok a) :
    (x >>= f).select g = x.select g ++ (f a).select g := by
  rw [bind_of_ok f h]
  exact List.filterMap_append

theorem select_bind_of_error {x : Run ε α} {e : ε} {f : α → Run ε β} (h : x.result = .error e) :
    (x >>= f).select g = x.select g := by
  rw [bind_of_error f h]
  rfl

theorem select_eq_nil {x : Run ε α} (h : x.Shows fun e => g e = none) : x.select g = [] :=
  List.filterMap_eq_nil_iff.mpr h

theorem select_bind_left {x : Run ε α} {f : α → Run ε β}
    (hf : ∀ a, (f a).Shows fun e => g e = none) : (x >>= f).select g = x.select g := by
  cases h : x.result with
  | ok a => rw [select_bind_of_ok h, select_eq_nil (hf a), List.append_nil]
  | error e => exact select_bind_of_error h

theorem select_andThen {x : Run ε α} {f : Except ε α → Run ε' β}
    (hf : ∀ r, (f r).Shows fun e => g e = none) : (x.andThen f).select g = x.select g := by
  unfold select andThen
  rw [List.filterMap_append, List.filterMap_eq_nil_iff.mpr (hf x.result), List.append_nil]

theorem prints_eq_nil {x : Run ε α} (h : x.Shows Event.Silent) : x.prints = [] := select_eq_nil h

end Run

namespace Source

open Json Url

/-- A request as a loader handles it: made with one of its timeouts, the response closed if there is
one, and the body read if the status is 200. -/
structure Handled (world : World) (loader : Loader) (r : Request) : Prop where
  timed : ∃ scheme, loader.lookup scheme = some (.http r.timeout)
  closed : r.closed = true ↔ ∃ status body, world.fetch r.url = .response status body
  read : r.read = true ↔ ∃ body, world.fetch r.url = .response 200 body

/-- What loading shows: records, reads, and requests that are handled. -/
inductive Loads (world : World) (loader : Loader) : Event → Prop
  | log (level : Level) (message : String) : Loads world loader (.log level message)
  | read (path : Path) : Loads world loader (.read path)
  | request {r : Request} : Handled world loader r → Loads world loader (.request r)

variable {world : World} {loader : Loader}

theorem Loads.silent {e : Event} (h : Loads world loader e) : e.Silent := by
  cases h <;> rfl

theorem shows_splitOrFail {p : Event → Prop} (url : String) : (splitOrFail url).Shows p := by
  unfold splitOrFail
  split
  · exact Run.shows_pure _
  · exact Run.shows_fail _

theorem shows_decoded {p : Event → Prop} (url : String) (r : Except Malformed Value) :
    (decoded url r).Shows p := by
  cases r with
  | ok v => exact Run.shows_pure v
  | error cause => exact Run.shows_fail _

theorem shows_loadFile (url : String) (parts : Parts) :
    (loadFile world url parts).Shows (Loads world loader) := by
  refine Run.shows_bind (Run.shows_emit (.log _ _)) fun _ => ?_
  refine Run.shows_bind (Run.shows_emit (.read _)) fun _ => ?_
  refine Run.shows_ite (Run.shows_fail _) ?_
  split
  · exact shows_decoded url _
  · exact Run.shows_fail _

theorem shows_loadHttp {scheme : String} {timeout : Number}
    (ht : loader.lookup scheme = some (.http timeout)) (url : String) :
    (loadHttp world timeout url).Shows (Loads world loader) := by
  refine Run.shows_bind (Run.shows_emit (.log _ _)) fun _ => ?_
  split
  · next reason hf =>
    have hr : Handled world loader ⟨url, timeout, false, false⟩ :=
      ⟨⟨scheme, ht⟩, by simp [hf], by simp [hf]⟩
    exact Run.shows_bind (Run.shows_emit (.request hr)) fun _ => Run.shows_fail _
  · next status body hf =>
    split
    · next hs =>
      have hr : Handled world loader ⟨url, timeout, true, true⟩ :=
        ⟨⟨scheme, ht⟩, by simp [hf], by simp [hf, hs]⟩
      exact Run.shows_bind (Run.shows_emit (.request hr)) fun _ => shows_decoded url _
    · next hs =>
      have hr : Handled world loader ⟨url, timeout, false, true⟩ :=
        ⟨⟨scheme, ht⟩, by simp [hf], by simp [hf, hs]⟩
      exact Run.shows_bind (Run.shows_emit (.request hr)) fun _ => Run.shows_fail _

theorem shows_load (world : World) (loader : Loader) (url : String) :
    (load world loader url).Shows (Loads world loader) := by
  refine Run.shows_bind (shows_splitOrFail url) fun parts => ?_
  dsimp only
  split
  · exact shows_loadFile url parts
  · next timeout ht => exact shows_loadHttp ht url
  · exact Run.shows_fail _

theorem shows_loadSchema (world : World) (loader : Loader) (source : SchemaSource) :
    (loadSchema world loader source).Shows (Loads world loader) := by
  unfold loadSchema
  split
  · exact Run.shows_bind (shows_decoded _ _) fun v => Run.shows_pure _
  all_goals
    split
    · exact Run.shows_fail _
    · exact Run.shows_bind (shows_load world loader _) fun v => Run.shows_pure _

theorem load_silent (world : World) (loader : Loader) (url : String) :
    (load world loader url).Shows Event.Silent :=
  (shows_load world loader url).imp fun _ h => h.silent

theorem loadSchema_silent (world : World) (loader : Loader) (source : SchemaSource) :
    (loadSchema world loader source).Shows Event.Silent :=
  (shows_loadSchema world loader source).imp fun _ h => h.silent

end Source

end Preflight

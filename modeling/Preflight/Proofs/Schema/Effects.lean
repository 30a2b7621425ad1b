import Preflight.Proofs.Source.Loading
import Preflight.Schema.Compiled

/-!
# What traces and references show

Traces put together show what their parts show, and whoever asks a trace for its findings shows what
the trace does (`shows_findings`, `shows_first?`). A reference is resolved with no events but those of
a fetch (`shows_lookup`).
-/

namespace Preflight.Schema

open Json Source

variable {p : Event → Prop} {α β : Type}

namespace Trace

/-- Every event of the evaluation is as told. -/
def Shows (p : Event → Prop) : Trace → Prop
  | .done => True
  | .stop _ => True
  | .event e next => p e ∧ (next ()).Shows p
  | .finding _ next => (next ()).Shows p

theorem shows_done : Shows p .done := trivial

theorem shows_stop (reason : Stop) : Shows p (.stop reason) := trivial

theorem shows_report (x : Finding) : Shows p (report x) := trivial

theorem shows_say (message : String) : Shows p (say message) := trivial

theorem shows_followedBy {t : Trace} {k : Unit → Trace} (ht : t.Shows p) (hk : (k ()).Shows p) :
    (t.followedBy k).Shows p := by
  induction t with
  | done => exact hk
  | stop reason => exact trivial
  | event e next ih => exact ⟨ht.1, ih () ht.2⟩
  | finding x next ih => exact ih () ht

theorem shows_each {f : α → Trace} (h : ∀ a, (f a).Shows p) (l : List α) : (each f l).Shows p := by
  induction l with
  | nil => exact trivial
  | cons a l ih => exact shows_followedBy (h a) ih

theorem shows_map {f : Finding → Finding} {t : Trace} (h : t.Shows p) : (t.map f).Shows p := by
  induction t with
  | done => exact trivial
  | stop reason => exact trivial
  | event e next ih => exact ⟨h.1, ih () h.2⟩
  | finding x next ih => exact ih () h

theorem shows_foldr_event {events : List Event} {t : Trace} (he : ∀ e ∈ events, p e)
    (ht : t.Shows p) : (events.foldr (fun e t => .event e fun _ => t) t).Shows p := by
  induction events with
  | nil => exact ht
  | cons e events ih =>
    obtain ⟨h, he⟩ := List.forall_mem_cons.mp he
    exact ⟨h, ih he⟩

theorem shows_after {search : Search α} {k : α → Trace} (hs : search.Shows p)
    (hk : ∀ a, (k a).Shows p) : (after search k).Shows p := by
  refine shows_foldr_event hs ?_
  split
  · exact hk _
  · exact trivial

theorem shows_ofVerdict (v : Verdict) : Shows p (ofVerdict v) := by
  cases v with
  | error mishap => exact trivial
  | ok message =>
    cases message with
    | none => exact trivial
    | some message => exact trivial

theorem shows_sayIf (fails : Bool) (message : String) : Shows p (sayIf fails message) := by
  cases fails with
  | false => exact trivial
  | true => exact trivial

theorem shows_first? {t : Trace} (h : t.Shows p) : t.first?.Shows p := by
  induction t with
  | done => exact Run.shows_pure _
  | stop reason => exact Run.shows_fail _
  | event e next ih => exact List.forall_mem_cons.mpr ⟨h.1, ih () h.2⟩
  | finding x next _ => exact Run.shows_pure _

theorem shows_isClean {t : Trace} (h : t.Shows p) : t.isClean.Shows p :=
  Run.shows_bind (shows_first? h) fun _ => Run.shows_pure _

theorem shows_findings {t : Trace} (h : t.Shows p) : t.findings.Shows p := by
  induction t with
  | done => exact Run.shows_pure _
  | stop reason => exact Run.shows_fail _
  | event e next ih => exact List.forall_mem_cons.mpr ⟨h.1, ih () h.2⟩
  | finding x next ih => exact ih () h

end Trace

theorem shows_ofUrl (r : Except UrlFault α) : (Search.ofUrl r).Shows p := by
  cases r with
  | ok a => exact Run.shows_pure a
  | error fault => exact Run.shows_fail _

/-! ### References -/

namespace Resolver

variable {fetch : Fetch}

theorem shows_enter (resolver : Resolver) (r : Resource) : (resolver.enter r).Shows p := by
  unfold enter
  split
  · exact Run.shows_pure _
  · exact Run.shows_bind (shows_ofUrl _) fun _ => Run.shows_pure _

theorem shows_retrieve (h : ∀ url, (fetch url).Shows p) (registry : Registry) (ref uri : String) :
    (retrieve fetch registry ref uri).Shows p := by
  unfold retrieve
  split
  · exact Run.shows_pure _
  · refine Run.shows_bind (shows_ofUrl _) fun crawled => ?_
    split
    · exact Run.shows_pure _
    · exact Run.shows_bind (Run.shows_mapError (h uri)) fun _ => Run.shows_pure _

theorem shows_stepInto (v : Value) (step : String) : (stepInto v step).Shows p := by
  unfold stepInto
  dsimp only
  split
  · split
    · exact Run.shows_pure _
    · exact Run.shows_fail _
  · split
    · exact Run.shows_pure _
    · exact Run.shows_fail _
  · exact Run.shows_pure _
  · exact Run.shows_fail _

theorem shows_follow (r : Resource) (pointer : String) (steps : List String) :
    ∀ resolver walked contents, (follow r pointer resolver walked contents steps).Shows p := by
  induction steps with
  | nil =>
    intro resolver walked contents
    exact Run.shows_pure _
  | cons step steps ih =>
    intro resolver walked contents
    refine Run.shows_bind (shows_stepInto contents step) fun found => ?_
    cases found with
    | none => exact Run.shows_fail _
    | some target =>
      refine Run.shows_ite ?_ (ih resolver _ _)
      exact Run.shows_bind (shows_enter _ _) fun resolver => ih resolver _ _

theorem shows_findAnchor (registry : Registry) (uri name : String) :
    (findAnchor registry uri name).Shows p := by
  unfold findAnchor
  split
  · exact Run.shows_pure _
  · refine Run.shows_bind (shows_ofUrl _) fun crawled => ?_
    split
    · exact Run.shows_pure _
    · split
      · exact Run.shows_fail _
      · split
        · exact Run.shows_pure _
        · exact Run.shows_ite (Run.shows_fail _) (Run.shows_fail _)

theorem shows_outermost (registry : Registry) (name : String) (uris : List String) :
    ∀ r, (outermost registry name r uris).Shows p := by
  induction uris with
  | nil => exact fun r => Run.shows_pure r
  | cons uri uris ih =>
    intro r
    unfold outermost
    dsimp only
    split
    · exact ih _
    · exact ih _
    · exact Run.shows_fail _

theorem shows_resolveAnchor (resolver : Resolver) (name : String) (anchor : Anchor) :
    (resolveAnchor resolver name anchor).Shows p := by
  refine Run.shows_ite ?_ (Run.shows_pure _)
  refine Run.shows_bind (shows_outermost _ _ _ _) fun r => ?_
  exact Run.shows_bind (shows_enter _ _) fun _ => Run.shows_pure _

theorem shows_target (resolver : Resolver) (ref : String) : (target resolver ref).Shows p := by
  unfold target
  split
  · exact Run.shows_pure _
  · exact Run.shows_bind (shows_ofUrl _) fun _ => shows_ofUrl _

/-- What a reference leads to is found with no events but those of a fetch. -/
theorem shows_lookup (h : ∀ url, (fetch url).Shows p) (resolver : Resolver) (ref : String) :
    (lookup fetch resolver ref).Shows p := by
  refine Run.shows_bind (shows_target _ _) fun ⟨uri, fragment⟩ => ?_
  refine Run.shows_bind (shows_retrieve h _ _ _) fun ⟨registry, r⟩ => ?_
  dsimp only
  split
  · exact Run.shows_pure _
  · exact shows_follow _ _ _ _ _ _
  · exact Run.shows_bind (shows_findAnchor _ _ _) fun _ => shows_resolveAnchor _ _ _

theorem shows_outermostRecursive (h : ∀ url, (fetch url).Shows p) (resolver : Resolver)
    (uris : List String) : ∀ found, (outermostRecursive fetch resolver found uris).Shows p := by
  induction uris with
  | nil => exact fun found => Run.shows_pure found
  | cons uri uris ih =>
    intro found
    refine Run.shows_bind (shows_lookup h _ _) fun next => ?_
    exact Run.shows_ite (ih next) (Run.shows_pure _)

theorem shows_lookupRecursive (h : ∀ url, (fetch url).Shows p) (resolver : Resolver) :
    (lookupRecursive fetch resolver).Shows p := by
  refine Run.shows_bind (shows_lookup h _ _) fun found => ?_
  exact Run.shows_ite (shows_outermostRecursive h _ _ _) (Run.shows_pure _)

end Resolver

end Preflight.Schema

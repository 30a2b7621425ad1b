import Preflight.Proofs.Schema.WalkLikeness

/-!
# Places that an evaluation visits

From the place where it starts, an evaluation goes to subschemas and to what references lead to, and
nowhere else: what would be found at other places does not count (`walkWithin_visited`).
-/

namespace Preflight.Schema

open Json

/-- The places that an evaluation may visit, given what it can fetch. -/
inductive Visited (fetch : Fetch) (start : Frame) (document : Value) : Frame → Value → Prop
  | start : Visited fetch start document start document
  | enter {f : Frame} {members : Members} {w : Value} {resolver : Resolver} {d : Dialect} :
      Visited fetch start document f (.object members) → Subschema members w →
      (f.resolver.enter ⟨f.dialect, w⟩).result = .ok resolver →
      Dialect.evaluating f.dialect w = .ok d → Visited fetch start document ⟨d, resolver⟩ w
  | stay {f : Frame} {members : Members} {w : Value} {d : Dialect} :
      Visited fetch start document f (.object members) → Subschema members w →
      Dialect.evaluating f.dialect w = .ok d → Visited fetch start document ⟨d, f.resolver⟩ w
  | part {f : Frame} {members : Members} {w : Value} :
      Visited fetch start document f (.object members) → Subschema members w →
      Visited fetch start document f w
  | refer {f : Frame} {members : Members} {keyword ref : String} {found : Resolved} {d : Dialect} :
      Visited fetch start document f (.object members) → keyword ∈ ["$ref", "$dynamicRef"] →
      (keyword, .string ref) ∈ members → (f.resolver.lookup fetch ref).result = .ok found →
      Dialect.evaluating f.dialect found.contents = .ok d →
      Visited fetch start document ⟨d, found.resolver⟩ found.contents
  | recur {f : Frame} {members : Members} {v : Value} {found : Resolved} {d : Dialect} :
      Visited fetch start document f (.object members) → ("$recursiveRef", v) ∈ members →
      (f.resolver.lookupRecursive fetch).result = .ok found →
      Dialect.evaluating f.dialect found.contents = .ok d →
      Visited fetch start document ⟨d, found.resolver⟩ found.contents

open Classical in
/-- A walk that breaks off at any place outside some. -/
noncomputable def walkWithin (p : Frame → Value → Prop) (fetch : Fetch) (formats : Bool) :
    Nat → Dialect → Frame → Value → Value → Trace
  | 0, _, _, _, _ => .stop (.mishap .endless)
  | fuel + 1, d, frame, schema, target =>
    if p frame schema then
      Evaluator.walkStep ⟨fetch, formats, walkWithin p fetch formats fuel⟩ fuel d frame schema target
    else .stop (.mishap .endless)

/-- One place, visited by two evaluations. -/
inductive BothVisit (fetch : Fetch) (start : Frame) (document : Value) : Places
  | visit {f : Frame} {s : Value} :
      Visited fetch start document f s → BothVisit fetch start document f s f s

variable {fetch : Fetch} {start : Frame} {document : Value}

theorem visited_correspondence :
    Correspondence Eq fetch fetch (BothVisit fetch start document) where
  mishap _ := rfl
  withoutKind _ _ := congrArg Stop.withoutKind
  dialect := by
    rintro _ _ _ _ ⟨_⟩
    rfl
  twins := by
    rintro _ _ _ _ ⟨_⟩
    exact .same _
  enter := by
    rintro f m _ _ w ⟨hv⟩ hw
    refine (Search.alike_refl (fun _ => rfl) _).imp ?_
    rintro resolver _ ⟨rfl, hr⟩ d hd
    exact ⟨.enter hv hw hr hd⟩
  stay := by
    rintro f m _ _ w ⟨hv⟩ hw d hd
    exact ⟨.stay hv hw hd⟩
  part := by
    rintro f m _ _ w ⟨hv⟩ hw
    exact ⟨.part hv hw⟩
  refer := by
    rintro f m _ _ keyword ref ⟨hv⟩ hk hm
    refine (Search.alike_refl (fun _ => rfl) _).imp ?_
    rintro found _ ⟨rfl, hf⟩
    exact ⟨.same _, fun d hd => ⟨.refer hv hk hm hf hd⟩⟩
  recur := by
    rintro f m _ _ v ⟨hv⟩ hm
    refine (Search.alike_refl (fun _ => rfl) _).imp ?_
    rintro found _ ⟨rfl, hf⟩
    exact ⟨.same _, fun d hd => ⟨.recur hv hm hf hd⟩⟩

/-- A walk that breaks off at all places but those it may visit is the whole walk. -/
theorem walkWithin_visited (formats : Bool) (fuel : Nat) :
    ∀ {f s}, Visited fetch start document f s → ∀ d target,
      walkWithin (Visited fetch start document) fetch formats fuel d f s target =
        walk fetch formats fuel d f s target := by
  induction fuel with
  | zero =>
    intro f s _ d target
    rfl
  | succ fuel ih =>
    intro f s hv d target
    have he : Evaluator.Alike Eq (BothVisit fetch start document)
        ⟨fetch, formats, walkWithin (Visited fetch start document) fetch formats fuel⟩
        ⟨fetch, formats, walk fetch formats fuel⟩ := by
      refine ⟨visited_correspondence, rfl, ?_⟩
      rintro _ _ _ _ ⟨hv⟩ d target
      exact Trace.alike_of_eq (ih hv d target)
    rw [walkWithin, if_pos hv, walk_succ]
    exact Trace.eq_of_alike (Evaluator.alike_walkStep he ⟨hv⟩ fuel d target)

end Preflight.Schema

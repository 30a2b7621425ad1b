import Preflight.Proofs.Gateway.Reading
import Preflight.Schema.Evaluation

/-!
# Evaluations within an evaluation

An evaluation goes through those of the subschemas that it descends into, and passes their findings on,
seen from farther out (`Trace.Within`). So the findings of such a part stand together among its own
(`Trace.Within.findings`). A walk goes through the evaluation of each of its keywords (`within_walk`), and
a keyword that descends through the walks of its subschemas (`Evaluator.within_descend`).
-/

namespace Preflight.Schema

open Gateway Json

/-! ### Findings from farther out -/

/-- A finding seen from outside, given the ways to the value and the schema that it was made in. -/
def Finding.seenFrom (valuePath schemaPath : List Step) (x : Finding) : Finding :=
  { x with valuePath := valuePath ++ x.valuePath, schemaPath := schemaPath ++ x.schemaPath }

/-- The steps that a keyword is on the way through a schema. -/
def keywordSteps (keyword : String) : List Step :=
  if transparent.contains keyword then [] else [.name keyword]

variable {x : Finding} {valuePath schemaPath outerValue outerSchema : List Step} {α : Type}

/-- A finding that has its keyword is one of this keyword wherever it is seen from. -/
theorem Finding.under_eq_seenFrom (h : x.keyword ≠ none) (keyword : String) :
    x.under keyword = x.seenFrom [] (keywordSteps keyword) := by
  obtain ⟨k, hk⟩ := Option.ne_none_iff_exists'.mp h
  unfold under seenFrom keywordSteps
  rw [hk, Option.getD_some]
  split <;> rfl

theorem Finding.seenFrom_seenFrom :
    (x.seenFrom valuePath schemaPath).seenFrom outerValue outerSchema =
      x.seenFrom (outerValue ++ valuePath) (outerSchema ++ schemaPath) := by
  simp only [seenFrom, List.append_assoc]

namespace Trace

variable {part inner t : Trace} {k : Unit → Trace} {all : List Finding}

/-! ### Findings of traces -/

theorem findings_followedBy : (t.followedBy k).findings.result = .ok all ↔
    ∃ own rest, t.findings.result = .ok own ∧ (k ()).findings.result = .ok rest ∧ own ++ rest = all := by
  induction t generalizing all with
  | done =>
    refine ⟨fun h => ⟨[], all, rfl, h, rfl⟩, ?_⟩
    rintro ⟨own, rest, ho, hr, rfl⟩
    cases ho
    exact hr
  | stop reason =>
    refine ⟨nofun, ?_⟩
    rintro ⟨own, rest, ho, -⟩
    cases ho
  | event e next ih => exact ih ()
  | finding x next ih =>
    show ((next ()).followedBy k).findings.result.map (x :: ·) = _ ↔
      ∃ own rest, (next ()).findings.result.map (x :: ·) = _ ∧ _
    simp only [map_ok_iff, ih ()]
    constructor
    · rintro ⟨_, ⟨own, rest, ho, hr, rfl⟩, rfl⟩
      exact ⟨x :: own, rest, ⟨own, ho, rfl⟩, hr, rfl⟩
    · rintro ⟨_, rest, ⟨own, ho, rfl⟩, hr, rfl⟩
      exact ⟨own ++ rest, ⟨own, rest, ho, hr, rfl⟩, rfl⟩

theorem findings_map {f : Finding → Finding} :
    (t.map f).findings.result = .ok all ↔ ∃ own, t.findings.result = .ok own ∧ own.map f = all := by
  induction t generalizing all with
  | done =>
    refine ⟨fun h => ⟨[], rfl, Except.ok.inj h⟩, ?_⟩
    rintro ⟨own, ho, rfl⟩
    cases ho
    rfl
  | stop reason =>
    refine ⟨nofun, ?_⟩
    rintro ⟨own, ho, -⟩
    cases ho
  | event e next ih => exact ih ()
  | finding x next ih =>
    show ((next ()).map f).findings.result.map (f x :: ·) = _ ↔
      ∃ own, (next ()).findings.result.map (x :: ·) = _ ∧ _
    simp only [map_ok_iff, ih ()]
    constructor
    · rintro ⟨_, ⟨own, ho, rfl⟩, rfl⟩
      exact ⟨x :: own, ⟨own, ho, rfl⟩, rfl⟩
    · rintro ⟨_, ⟨own, ho, rfl⟩, rfl⟩
      exact ⟨own.map f, ⟨own, ho, rfl⟩, rfl⟩

theorem findings_each_report {f : α → Trace} {g : α → Finding} {l : List α}
    (h : ∀ a ∈ l, f a = report (g a)) : (each f l).findings.result = .ok (l.map g) := by
  induction l with
  | nil => rfl
  | cons a l ih =>
    obtain ⟨ha, hl⟩ := List.forall_mem_cons.mp h
    rw [each, ha]
    exact map_ok_iff.mpr ⟨_, ih hl, rfl⟩

/-! ### Parts -/

/-- An evaluation goes through another one at a place that some steps into the value and through the
schema lead to, and passes on what that one finds. -/
inductive Within (part : Trace) : List Step → List Step → Trace → Prop
  | self : Within part [] [] part
  | event {valuePath schemaPath : List Step} {e : Event} {next : Unit → Trace} :
      Within part valuePath schemaPath (next ()) → Within part valuePath schemaPath (.event e next)
  | first {valuePath schemaPath : List Step} {t : Trace} {k : Unit → Trace} :
      Within part valuePath schemaPath t → Within part valuePath schemaPath (t.followedBy k)
  | next {valuePath schemaPath : List Step} {t : Trace} {k : Unit → Trace} :
      Within part valuePath schemaPath (k ()) → Within part valuePath schemaPath (t.followedBy k)
  | stepped {valuePath schemaPath : List Step} {t : Trace} (valueStep schemaStep : Option Step) :
      Within part valuePath schemaPath t →
      Within part (valueStep.toList ++ valuePath) (schemaStep.toList ++ schemaPath)
        (t.map (.below valueStep schemaStep))
  | keyed {valuePath schemaPath : List Step} {t : Trace} (keyword : String) :
      Within part valuePath schemaPath t →
      Within part valuePath (keywordSteps keyword ++ schemaPath) (t.map (.under keyword))

theorem Within.trans (h : Within part valuePath schemaPath inner)
    (ho : Within inner outerValue outerSchema t) :
    Within part (outerValue ++ valuePath) (outerSchema ++ schemaPath) t := by
  induction ho with
  | self => exact h
  | event _ ih => exact .event ih
  | first _ ih => exact .first ih
  | next _ ih => exact .next ih
  | stepped valueStep schemaStep _ ih =>
    rw [List.append_assoc, List.append_assoc]
    exact .stepped valueStep schemaStep ih
  | keyed keyword _ ih =>
    rw [List.append_assoc]
    exact .keyed keyword ih

theorem within_each {f : α → Trace} {l : List α} {a : α} (ha : a ∈ l)
    (h : Within part valuePath schemaPath (f a)) : Within part valuePath schemaPath (each f l) := by
  induction ha with
  | head => exact .first h
  | tail _ _ ih => exact .next ih

theorem within_after {search : Search α} {a : α} {k : α → Trace} (hs : search.result = .ok a)
    (h : Within part valuePath schemaPath (k a)) :
    Within part valuePath schemaPath (after search k) := by
  unfold after
  rw [hs]
  induction search.events with
  | nil => exact h
  | cons e events ih => exact .event ih

/-- What a part finds stands together among the findings, as it is seen from outside. -/
theorem Within.findings (h : Within part valuePath schemaPath t)
    (hk : ∀ own, part.findings.result = .ok own → ∀ x ∈ own, x.keyword ≠ none)
    (ht : t.findings.result = .ok all) :
    ∃ own before after, part.findings.result = .ok own ∧
      all = before ++ own.map (.seenFrom valuePath schemaPath) ++ after := by
  induction h generalizing all with
  | self =>
    have hid : Finding.seenFrom [] [] = id := rfl
    exact ⟨all, [], [], ht, by rw [hid, List.map_id, List.nil_append, List.append_nil]⟩
  | event _ ih => exact ih ht
  | first _ ih =>
    obtain ⟨some, rest, hs, -, rfl⟩ := findings_followedBy.mp ht
    obtain ⟨own, before, after, ho, rfl⟩ := ih hs
    exact ⟨own, before, after ++ rest, ho, List.append_assoc _ _ _⟩
  | next _ ih =>
    obtain ⟨some, rest, -, hr, rfl⟩ := findings_followedBy.mp ht
    obtain ⟨own, before, after, ho, rfl⟩ := ih hr
    exact ⟨own, some ++ before, after, ho, by simp only [List.append_assoc]⟩
  | stepped valueStep schemaStep _ ih =>
    obtain ⟨found, hf, rfl⟩ := findings_map.mp ht
    obtain ⟨own, before, after, ho, rfl⟩ := ih hf
    refine ⟨own, before.map (.below valueStep schemaStep), after.map (.below valueStep schemaStep), ho, ?_⟩
    rw [List.map_append, List.map_append, List.map_map]
    congr 2
    exact List.map_congr_left fun x _ => Finding.seenFrom_seenFrom
  | keyed keyword _ ih =>
    obtain ⟨found, hf, rfl⟩ := findings_map.mp ht
    obtain ⟨own, before, after, ho, rfl⟩ := ih hf
    refine ⟨own, before.map (.under keyword), after.map (.under keyword), ho, ?_⟩
    rw [List.map_append, List.map_append, List.map_map]
    congr 2
    refine List.map_congr_left fun x hx => ?_
    refine (Finding.under_eq_seenFrom ?_ keyword).trans Finding.seenFrom_seenFrom
    exact hk own ho x hx

end Trace

/-! ### Walks and descents -/

variable {part : Trace} {fetch : Fetch} {formats : Bool} {depth : Nat} {d : Dialect}
  {frame inner : Frame} {schema members object : Members} {target : Value} {m : String × Value}

namespace Evaluator

variable {e : Evaluator} {resolver : Resolver}

def keywordTrace (e : Evaluator) (depth : Nat) (site : Site) (m : String × Value) : Trace :=
  match Rule.ofKeyword? site.frame.dialect m.1 with
  | some rule => (e.apply depth site m.2 rule).map (.under m.1)
  | none => .done

theorem within_keyword (rule : Rule) (hr : Rule.ofKeyword? frame.dialect m.1 = some rule)
    (h : part.Within valuePath schemaPath (e.apply depth ⟨frame, members, target⟩ m.2 rule)) :
    part.Within valuePath (keywordSteps m.1 ++ schemaPath)
      (e.keywordTrace depth ⟨frame, members, target⟩ m) := by
  unfold keywordTrace
  dsimp only
  rw [hr]
  exact .keyed m.1 h

/-- A descent goes through the walk of the subschema, in the frame that is inside it. -/
theorem within_descend (frame : Frame)
    (he : (frame.resolver.enter ⟨frame.dialect, .object schema⟩).result = .ok resolver)
    (hi : (inside frame resolver (.object schema)).result = .ok inner)
    (valueStep schemaStep : Option Step) :
    (e.walk frame.dialect inner (.object schema) target).Within valueStep.toList schemaStep.toList
      (e.descend frame (.object schema) target valueStep schemaStep) := by
  unfold descend
  refine Trace.within_after he ?_
  unfold descendWith
  refine Trace.within_after hi ?_
  rw [← List.append_nil valueStep.toList, ← List.append_nil schemaStep.toList]
  exact .stepped valueStep schemaStep .self

theorem within_properties {table : Members} {name : String} {w member : Value} (hm : (name, w) ∈ table)
    (hg : Members.get? object name = some member)
    (h : part.Within valuePath schemaPath
      (e.descend frame w member (some (.name name)) (some (.name name)))) :
    part.Within valuePath schemaPath
      (e.apply depth ⟨frame, members, .object object⟩ (.object table) .properties) := by
  refine Trace.within_each hm ?_
  dsimp only
  rw [hg]
  exact h

theorem within_allOf {schemas : List Value} {w : Value} {i : Nat} (hw : schemas[i]? = some w)
    (h : part.Within valuePath schemaPath (e.descend frame w target none (some (.index i)))) :
    part.Within valuePath schemaPath (e.apply depth ⟨frame, members, target⟩ (.array schemas) .allOf) :=
  Trace.within_each (a := (w, i)) (List.mem_zipIdx_iff_getElem?.mpr hw) h

/-- Every item is evaluated with the schema of `items`, where no keyword takes the first ones out. -/
theorem within_items {items : List Value} {item : Value} {i : Nat}
    (hp : Members.get? members "prefixItems" = none) (hi : items[i]? = some item)
    (h : part.Within valuePath schemaPath
      (e.descend frame (.object schema) item (some (.index i)) none)) :
    part.Within valuePath schemaPath
      (e.apply depth ⟨frame, members, .array items⟩ (.object schema) .items) := by
  show part.Within valuePath schemaPath (e.applyItems ⟨frame, members, .array items⟩ (.object schema))
  unfold applyItems
  simp only [hp]
  cases items with
  | nil => cases hi
  | cons first rest =>
    have hm : (item, i) ∈ ((first :: rest).drop 0).zipIdx := List.mem_zipIdx_iff_getElem?.mpr hi
    exact Trace.within_each hm h

end Evaluator

/-- A walk goes through the evaluation of each keyword that counts. -/
theorem within_walk (hm : m ∈ countingKeywords d members)
    (h : part.Within valuePath schemaPath
      (Evaluator.keywordTrace ⟨fetch, formats, walk fetch formats depth⟩ depth
        ⟨frame, members, target⟩ m)) :
    part.Within valuePath schemaPath
      (walk fetch formats (depth + 1) d frame (.object members) target) := by
  unfold walk
  exact Trace.within_each hm h

end Preflight.Schema

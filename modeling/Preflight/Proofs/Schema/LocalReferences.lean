import Preflight.Proofs.Schema.Compiling
import Preflight.Proofs.Schema.WalkEffects
import Preflight.Proofs.Schema.WalkLikeness

/-!
# Documents with local references

The schemas of a document are the document itself, their parts, and what their local references lead
to (`SchemaOf`). A document is self-contained when none of them has an identifier or a reference that
is not local (`SelfContained`). Evaluations of two copies of such a document go from place to place
together, wherever the copies stand and whatever can be fetched (`Copies.correspondence`).
-/

namespace Preflight.Schema

open Json Resolver Text

/-- The name that a step of a pointer stands for. -/
def stepName (step : String) : String := String.ofList (unescapeStep step.toList)

/-- From a value, steps lead to a value. -/
inductive Leads : Value → List String → Value → Prop
  | here (v : Value) : Leads v [] v
  | step {v w found : Value} {step : String} {steps : List String} :
      (stepInto v step).result = .ok (some w) → Leads w steps found → Leads v (step :: steps) found

/-- From a value, steps pass a value on their way, or end there. -/
inductive Passes : Value → List String → Value → Prop
  | next {v w : Value} {step : String} {steps : List String} :
      (stepInto v step).result = .ok (some w) → Passes v (step :: steps) w
  | later {v w passed : Value} {step : String} {steps : List String} :
      (stepInto v step).result = .ok (some w) → Passes w steps passed → Passes v (step :: steps) passed

/-- What a local reference of a document leads to. -/
inductive PointsTo (document : Value) : String → Value → Prop
  | whole : PointsTo document "#" document
  | place {ref : String} {pointer : List Char} {v : Value} :
      ref.toList = '#' :: '/' :: pointer →
      Leads document (pointerSteps (String.ofList ('/' :: pointer))) v → PointsTo document ref v

/-- The schemas of a document, with the dialects that they are read in. -/
inductive SchemaOf (document : Value) : Dialect → Value → Prop
  | evaluated {d : Dialect} :
      Dialect.evaluating .usual document = .ok d → SchemaOf document d document
  | identified : SchemaOf document (Dialect.identifying .usual document) document
  | part {d : Dialect} {members : Members} {w : Value} :
      SchemaOf document d (.object members) → Subschema members w → SchemaOf document d w
  | evaluatedPart {d d' : Dialect} {s : Value} :
      SchemaOf document d s → Dialect.evaluating d s = .ok d' → SchemaOf document d' s
  | identifiedPart {d : Dialect} {s : Value} :
      SchemaOf document d s → SchemaOf document (Dialect.identifying d s) s
  | referred {d : Dialect} {members : Members} {ref : String} {v : Value} :
      SchemaOf document d (.object members) → ("$ref", .string ref) ∈ members →
      PointsTo document ref v → SchemaOf document d v

/-- A reference to the document, or to a place in it: not through the identifier of the document,
and past no other identifier. -/
inductive IsLocal (document : Value) : String → Prop
  | whole : IsLocal document "#"
  | pointer {ref : String} {pointer : List Char} :
      ref.toList = '#' :: '/' :: pointer →
      (∀ step ∈ (pointerSteps (String.ofList ('/' :: pointer))).head?, stepName step ≠ "$id") →
      (∀ d v, Dialect.evaluating .usual document = .ok d →
        Passes document (pointerSteps (String.ofList ('/' :: pointer))) v →
        (Resource.mk d v).id? = none) →
      IsLocal document ref

/-- A document whose schemas have no identifiers and whose only references are local ones. -/
structure SelfContained (document : Value) : Prop where
  anonymous : ∀ d s, SchemaOf document d s → (Resource.mk d s).id? = none
  static : ∀ d members keyword v, SchemaOf document d (.object members) →
    keyword ∈ ["$dynamicRef", "$recursiveRef"] → (keyword, v) ∉ members
  references : ∀ d members ref, SchemaOf document d (.object members) →
    ("$ref", .string ref) ∈ members → IsLocal document ref

/-- Two evaluations end early in the same way: at references that lead nowhere, or in one mishap. -/
inductive SameStop : Stop → Stop → Prop
  | unresolved (k₁ k₂ : Bool) (fault₁ fault₂ : ReferenceFault) :
      SameStop (.unresolved k₁ fault₁) (.unresolved k₂ fault₂)
  | mishap (m : Mishap) : SameStop (.mishap m) (.mishap m)

theorem SameStop.refl (r : Stop) : SameStop r r := by
  cases r with
  | unresolved k fault => exact .unresolved k k fault fault
  | mishap m => exact .mishap m

theorem SameStop.withoutKind {r s : Stop} (h : SameStop r s) :
    SameStop r.withoutKind s.withoutKind := by
  cases h with
  | unresolved => exact .unresolved _ _ _ _
  | mishap m => exact .mishap m

/-! ### Following pointers -/

variable {document v w : Value} {uri₁ uri₂ : String} {d : Dialect}

theorem pointerSteps_ne_nil (pointer : String) : pointerSteps pointer ≠ [] := by
  unfold pointerSteps splitString
  exact mt List.map_eq_nil_iff.mp (split_ne_nil _ _)

theorem stepInto_twins (h : Twins v w) {step : String} (hn : stepName step ≠ "$id") :
    stepInto v step = stepInto w step := by
  cases h with
  | same => rfl
  | objects h =>
    show pure (Members.get? _ (stepName step)) = pure (Members.get? _ (stepName step))
    rw [get?_twins h hn]

/-- Where no value on the way has an identifier, two resolvers come the same way and stay as they
are. -/
theorem alike_follow {r₁ r₂ : Resource} (h₁ : r₁.dialect = d) (h₂ : r₂.dialect = d)
    (R₁ R₂ : Resolver) (pointer : String) (steps : List String) :
    ∀ contents walked₁ walked₂, (∀ v, Passes contents steps v → (Resource.mk d v).id? = none) →
      Search.Alike SameStop
        (fun p q => p = ⟨q.contents, R₁⟩ ∧ q.resolver = R₂ ∧ Leads contents steps q.contents)
        (follow r₁ pointer R₁ walked₁ contents steps) (follow r₂ pointer R₂ walked₂ contents steps) := by
  induction steps with
  | nil =>
    intro contents walked₁ walked₂ _
    exact Search.alike_pure ⟨rfl, rfl, .here contents⟩
  | cons step steps ih =>
    intro contents walked₁ walked₂ hway
    unfold follow
    refine Search.alike_bind (Search.alike_refl SameStop.refl (stepInto contents step)) ?_
    rintro found _ ⟨rfl, hs⟩
    cases found with
    | none => exact Search.alike_fail (.unresolved _ _ _ _)
    | some target =>
      have hid := hway target (.next hs)
      simp only [h₁, h₂, hid, Option.isSome_none, Bool.and_false, Bool.false_eq_true, if_false]
      refine (ih target _ _ fun v hv => hway v (.later hs hv)).imp ?_
      exact fun p q ⟨hp, hq, hl⟩ => ⟨hp, hq, .step hs hl⟩

theorem alike_follow_twins {r₁ r₂ : Resource} (h₁ : r₁.dialect = d) (h₂ : r₂.dialect = d)
    {v₁ v₂ : Value} (t₁ : Twins v₁ document) (t₂ : Twins v₂ document) (R₁ R₂ : Resolver)
    (pointer : String) {step : String} (hn : stepName step ≠ "$id") (steps : List String)
    (hway : ∀ v, Passes document (step :: steps) v → (Resource.mk d v).id? = none) :
    Search.Alike SameStop
      (fun p q => p = ⟨q.contents, R₁⟩ ∧ q.resolver = R₂ ∧ Leads document (step :: steps) q.contents)
      (follow r₁ pointer R₁ [] v₁ (step :: steps)) (follow r₂ pointer R₂ [] v₂ (step :: steps)) := by
  unfold follow
  rw [stepInto_twins t₁ hn, stepInto_twins t₂ hn]
  refine Search.alike_bind (Search.alike_refl SameStop.refl (stepInto document step)) ?_
  rintro found _ ⟨rfl, hs⟩
  cases found with
  | none => exact Search.alike_fail (.unresolved _ _ _ _)
  | some target =>
    have hid := hway target (.next hs)
    simp only [h₁, h₂, hid, Option.isSome_none, Bool.and_false, Bool.false_eq_true, if_false]
    have hfar (v : Value) (hv : Passes target steps v) : (Resource.mk d v).id? = none :=
      hway v (.later hs hv)
    refine (alike_follow h₁ h₂ R₁ R₂ pointer steps target _ _ hfar).imp ?_
    exact fun p q ⟨hp, hq, hl⟩ => ⟨hp, hq, .step hs hl⟩

/-! ### Two copies of a document -/

/-- Schemas of two copies of a document at the same place: the same schema, or the copies
themselves. -/
inductive SameSchema (document root₁ root₂ : Value) (d : Dialect) : Value → Value → Prop
  | shared {s : Value} : SchemaOf document d s → SameSchema document root₁ root₂ d s s
  | roots : SchemaOf document d document → SameSchema document root₁ root₂ d root₁ root₂

/-- A resolver that has not left a document. -/
structure Resolver.StandsAt (resolver : Resolver) (home : Resolver) : Prop where
  registry : resolver.registry = home.registry
  base : resolver.base = home.base

/-- The same place in the evaluation of two copies of a document. -/
structure SamePlace (document root₁ root₂ : Value) (home₁ home₂ : Resolver)
    (f₁ : Frame) (s₁ : Value) (f₂ : Frame) (s₂ : Value) : Prop where
  dialect : f₁.dialect = f₂.dialect
  first : f₁.resolver.StandsAt home₁
  second : f₂.resolver.StandsAt home₂
  schemas : SameSchema document root₁ root₂ f₁.dialect s₁ s₂

/-- Two copies of a self-contained document, each known under its base. -/
structure Copies (document root₁ root₂ : Value) (home₁ home₂ : Resolver) : Prop where
  contained : SelfContained document
  twins₁ : Twins root₁ document
  twins₂ : Twins root₂ document
  known : ∃ d, Dialect.evaluating .usual document = .ok d ∧
    home₁.registry.resource? home₁.base = some ⟨d, root₁⟩ ∧
    home₂.registry.resource? home₂.base = some ⟨d, root₂⟩

theorem Resolver.StandsAt.moveTo {resolver home : Resolver} (h : resolver.StandsAt home) :
    (resolver.moveTo resolver.registry resolver.base).StandsAt home := ⟨h.registry, h.base⟩

section Copies

variable {root₁ root₂ : Value} {home₁ home₂ : Resolver} {f₁ f₂ : Frame} {m₁ m₂ : Members}

theorem Copies.twins (h : Copies document root₁ root₂ home₁ home₂) {s₁ s₂ : Value}
    (hs : SameSchema document root₁ root₂ d s₁ s₂) : Twins s₁ s₂ := by
  cases hs with
  | shared => exact .same s₁
  | roots => exact twins_trans h.twins₁ (twins_symm h.twins₂)

theorem Copies.schemaOf (h : Copies document root₁ root₂ home₁ home₂) {s₂ : Value}
    (hs : SameSchema document root₁ root₂ d (.object m₁) s₂) :
    ∃ members, SchemaOf document d (.object members) ∧ withoutId m₁ = withoutId members := by
  generalize hv : Value.object m₁ = s₁ at hs
  cases hs with
  | shared hs => exact ⟨m₁, hv ▸ hs, rfl⟩
  | roots hs =>
    obtain ⟨members, rfl, hm⟩ := twins_object (hv ▸ h.twins₁)
    exact ⟨members, hs, hm⟩

theorem Copies.part (h : Copies document root₁ root₂ home₁ home₂) {s₂ : Value}
    (hs : SameSchema document root₁ root₂ d (.object m₁) s₂) (hw : Subschema m₁ w) :
    SchemaOf document d w := by
  obtain ⟨members, hm, ht⟩ := h.schemaOf hs
  exact .part hm (subschema_twins ht hw)

theorem SameSchema.evaluated {s₁ s₂ : Value} {d' : Dialect} (h₁ : Twins root₁ document)
    (hs : SameSchema document root₁ root₂ d s₁ s₂) (he : Dialect.evaluating d s₁ = .ok d') :
    SameSchema document root₁ root₂ d' s₁ s₂ := by
  cases hs with
  | shared hs => exact .shared (.evaluatedPart hs he)
  | roots hs => exact .roots (.evaluatedPart hs (evaluating_twins h₁ d ▸ he))

theorem enter_anonymous {r : Resource} (h : r.id? = none) (resolver : Resolver) :
    resolver.enter r = pure resolver := by
  unfold enter
  rw [h]

/-- A local reference leads two copies of a document to the same place. -/
theorem Copies.alike_lookup (h : Copies document root₁ root₂ home₁ home₂) {R₁ R₂ : Resolver}
    (h₁ : R₁.StandsAt home₁) (h₂ : R₂.StandsAt home₂) {ref : String} (hl : IsLocal document ref)
    (hs : ∀ v, PointsTo document ref v → SchemaOf document d v) (fetch₁ fetch₂ : Fetch) :
    Search.Alike SameStop
      (fun p q => SameSchema document root₁ root₂ d p.contents q.contents ∧
        p.resolver.StandsAt home₁ ∧ q.resolver.StandsAt home₂)
      (R₁.lookup fetch₁ ref) (R₂.lookup fetch₂ ref) := by
  obtain ⟨dialect, hd, hk₁, hk₂⟩ := h.known
  rw [← h₁.registry, ← h₁.base] at hk₁
  rw [← h₂.registry, ← h₂.base] at hk₂
  cases hl with
  | whole =>
    rw [lookup_whole hk₁, lookup_whole hk₂]
    exact Search.alike_pure ⟨.roots (hs document .whole), h₁.moveTo, h₂.moveTo⟩
  | @pointer ref pointer href hhead hway =>
    rw [lookup_pointer href hk₁, lookup_pointer href hk₂]
    cases hp : pointerSteps (String.ofList ('/' :: pointer)) with
    | nil => exact absurd hp (pointerSteps_ne_nil _)
    | cons step steps =>
      rw [hp] at hhead hway
      have hfollow := alike_follow_twins (rfl : (Resource.mk dialect root₁).dialect = dialect)
        (rfl : (Resource.mk dialect root₂).dialect = dialect) h.twins₁ h.twins₂
        (R₁.moveTo R₁.registry R₁.base) (R₂.moveTo R₂.registry R₂.base)
        (String.ofList ('/' :: pointer)) (hhead step rfl) steps fun v => hway dialect v hd
      refine hfollow.imp ?_
      rintro p q ⟨rfl, hq, hleads⟩
      refine ⟨.shared (hs _ (.place href (hp ▸ hleads))), h₁.moveTo, ?_⟩
      rw [hq]
      exact h₂.moveTo

/-- Subschemas and references of two copies of a document lead to the same places. -/
theorem Copies.correspondence (h : Copies document root₁ root₂ home₁ home₂) (fetch₁ fetch₂ : Fetch) :
    Correspondence SameStop fetch₁ fetch₂ (SamePlace document root₁ root₂ home₁ home₂) where
  mishap := .mishap
  withoutKind _ _ := SameStop.withoutKind
  dialect hk := hk.dialect
  twins hk := h.twins hk.schemas
  enter := by
    intro f₁ m₁ f₂ m₂ w hk hw
    have hid := h.contained.anonymous _ _ (h.part hk.schemas hw)
    rw [← hk.dialect, enter_anonymous hid, enter_anonymous hid]
    exact Search.alike_pure fun d he =>
      ⟨rfl, hk.first, hk.second, .shared (.evaluatedPart (h.part hk.schemas hw) he)⟩
  stay := by
    intro f₁ m₁ f₂ m₂ w hk hw d he
    exact ⟨rfl, hk.first, hk.second, .shared (.evaluatedPart (h.part hk.schemas hw) he)⟩
  part hk hw := ⟨hk.dialect, hk.first, hk.second, .shared (h.part hk.schemas hw)⟩
  refer := by
    intro f₁ m₁ f₂ m₂ keyword ref hk hkeyword hm
    obtain ⟨members, hs, ht⟩ := h.schemaOf hk.schemas
    have hne : keyword ≠ "$id" := ne_of_mem_of_not_mem hkeyword (by decide)
    have hm : (keyword, .string ref) ∈ members := (mem_twins ht hne).mp hm
    have hkeyword : keyword = "$ref" := by
      by_contra hother
      have hdynamic : keyword = "$dynamicRef" := by simpa [hother] using hkeyword
      exact h.contained.static _ _ keyword _ hs (by simp [hdynamic]) hm
    subst hkeyword
    refine (h.alike_lookup hk.first hk.second (h.contained.references _ _ _ hs hm)
      (fun v hv => .referred hs hm hv) fetch₁ fetch₂).imp ?_
    rintro p q ⟨hpq, hp, hq⟩
    exact ⟨h.twins hpq, fun d he => ⟨rfl, hp, hq, hpq.evaluated h.twins₁ he⟩⟩
  recur := by
    intro f₁ m₁ f₂ m₂ v hk hm
    obtain ⟨members, hs, ht⟩ := h.schemaOf hk.schemas
    exact absurd ((mem_twins ht (by decide)).mp hm)
      (h.contained.static _ _ "$recursiveRef" _ hs (by decide))

end Copies

end Preflight.Schema

import Preflight.Proofs.Schema.DescentLikeness

/-!
# Walks side by side

Every rule asks for nothing but subschemas and references, so at corresponding places it gives traces
that are alike (`Evaluator.alike_apply`), and by induction on its depth so does the walk
(`alike_walk`).
-/

namespace Preflight.Schema

open Json

variable {S : Stop → Stop → Prop} {K : Places}

namespace Evaluator

variable {e₁ e₂ : Evaluator} {f₁ f₂ : Frame} {m₁ m₂ : Members} {v w : Value}

/-! ### Rules -/

theorem alike_applyFrom (h : Alike S K e₁ e₂) (hk : K f₁ (.object m₁) f₂ (.object m₂))
    (hw : Subschema m₁ w) (target : Value) (start : Nat) (items : List Value) :
    Trace.Alike S (e₁.applyFrom ⟨f₁, m₁, target⟩ w start items)
      (e₂.applyFrom ⟨f₂, m₂, target⟩ w start items) :=
  Trace.alike_each fun p _ => alike_descend h hk hw p.1 _ _

theorem alike_applyPairwise (h : Alike S K e₁ e₂) (hk : K f₁ (.object m₁) f₂ (.object m₂))
    {schemas : List Value} (hw : ∀ w ∈ schemas, Subschema m₁ w) (target : Value)
    (items : List Value) :
    Trace.Alike S (e₁.applyPairwise ⟨f₁, m₁, target⟩ schemas items)
      (e₂.applyPairwise ⟨f₂, m₂, target⟩ schemas items) := by
  refine Trace.alike_each fun ⟨⟨item, schema⟩, index⟩ hm => ?_
  have hm : (item, schema) ∈ items.zip schemas := List.fst_mem_of_mem_zipIdx hm
  exact alike_descend h hk (hw schema (List.of_mem_zip hm).2) item _ _

theorem alike_applyPrefixItems (h : Alike S K e₁ e₂) (hk : K f₁ (.object m₁) f₂ (.object m₂))
    (hv : ("prefixItems", v) ∈ m₁) (target : Value) :
    Trace.Alike S (e₁.applyPrefixItems ⟨f₁, m₁, target⟩ v) (e₂.applyPrefixItems ⟨f₂, m₂, target⟩ v) := by
  unfold applyPrefixItems
  cases target with
  | array items =>
    exact alike_applyPairwise h hk (fun w hw => subschema_of_listed (by decide) hv hw) _ items
  | _ => exact .done

theorem alike_applyItems (h : Alike S K e₁ e₂) (hk : K f₁ (.object m₁) f₂ (.object m₂))
    (hv : ("items", v) ∈ m₁) (target : Value) :
    Trace.Alike S (e₁.applyItems ⟨f₁, m₁, target⟩ v) (e₂.applyItems ⟨f₂, m₂, target⟩ v) := by
  unfold applyItems
  cases target with
  | array items =>
    dsimp only
    rw [get?_eq h hk (show "prefixItems" ≠ "$id" by decide)]
    split
    · exact .done
    · exact Trace.alike_say _
    · exact alike_applyFrom h hk (.whole (by decide) hv) _ _ items
  | _ => exact .done

theorem alike_applyItemsDraft4 (h : Alike S K e₁ e₂) (hk : K f₁ (.object m₁) f₂ (.object m₂))
    (hv : ("items", v) ∈ m₁) (target : Value) :
    Trace.Alike S (e₁.applyItemsDraft4 ⟨f₁, m₁, target⟩ v) (e₂.applyItemsDraft4 ⟨f₂, m₂, target⟩ v) := by
  unfold applyItemsDraft4
  cases target with
  | array items =>
    dsimp only
    split
    · exact alike_applyFrom h hk (.whole (by decide) hv) _ 0 items
    · exact alike_applyPairwise h hk (fun w hw => subschema_of_listed (by decide) hv hw) _ items
  | _ => exact .done

theorem alike_applyItemsDraft2019 (h : Alike S K e₁ e₂) (hk : K f₁ (.object m₁) f₂ (.object m₂))
    (hv : ("items", v) ∈ m₁) (target : Value) :
    Trace.Alike S (e₁.applyItemsDraft2019 ⟨f₁, m₁, target⟩ v)
      (e₂.applyItemsDraft2019 ⟨f₂, m₂, target⟩ v) := by
  unfold applyItemsDraft2019
  cases target with
  | array items =>
    dsimp only
    split
    · exact alike_applyPairwise h hk (fun w hw => .listed (by decide) hv hw) _ items
    · exact alike_applyFrom h hk (.whole (by decide) hv) _ 0 items
  | _ => exact .done

theorem alike_applyAdditionalItems (h : Alike S K e₁ e₂) (hk : K f₁ (.object m₁) f₂ (.object m₂))
    (hv : ("additionalItems", v) ∈ m₁) (target : Value) :
    Trace.Alike S (e₁.applyAdditionalItems ⟨f₁, m₁, target⟩ v)
      (e₂.applyAdditionalItems ⟨f₂, m₂, target⟩ v) := by
  unfold applyAdditionalItems
  dsimp only
  rw [get?_eq h hk (show "items" ≠ "$id" by decide)]
  split
  · exact .done
  · exact .done
  · split
    · exact alike_applyFrom h hk (.whole (by decide) hv) _ _ _
    · exact Trace.alike_sayIf _ _
  · exact .stop (h.places.mishap _)
  · exact .done

theorem alike_countValid (h : Alike S K e₁ e₂) (hk : K f₁ (.object m₁) f₂ (.object m₂))
    (hw : Subschema m₁ w) (limit : Number) (items : List Value) : ∀ count,
    Search.Alike S Eq (e₁.countValid f₁ w limit count items) (e₂.countValid f₂ w limit count items) := by
  induction items with
  | nil => exact fun count => Search.alike_pure rfl
  | cons item items ih =>
    intro count
    refine Search.alike_bind (alike_probe h hk hw item) ?_
    rintro valid _ rfl
    exact Search.alike_ite valid (Search.alike_ite _ (Search.alike_pure rfl) (ih _)) (ih _)

theorem alike_applyContains (h : Alike S K e₁ e₂) (hk : K f₁ (.object m₁) f₂ (.object m₂))
    (hv : ("contains", v) ∈ m₁) (target : Value) :
    Trace.Alike S (e₁.applyContains ⟨f₁, m₁, target⟩ v) (e₂.applyContains ⟨f₂, m₂, target⟩ v) := by
  unfold applyContains
  cases target with
  | array items =>
    dsimp only
    rw [get?_eq h hk (show "minContains" ≠ "$id" by decide),
      get?_eq h hk (show "maxContains" ≠ "$id" by decide)]
    split
    · refine Trace.alike_after (alike_countValid h hk (.whole (by decide) hv) _ items 0) ?_
      rintro count _ rfl
      refine Trace.alike_ite (Trace.alike_report _) (Trace.alike_ite ?_ .done)
      exact Trace.alike_ite (Trace.alike_say _) (Trace.alike_report _)
    · exact .stop (h.places.mishap _)
    · exact .stop (h.places.mishap _)
  | _ => exact .done

theorem alike_probeAny (h : Alike S K e₁ e₂) (hk : K f₁ (.object m₁) f₂ (.object m₂))
    (hw : Subschema m₁ w) (vs : List Value) :
    Search.Alike S Eq (e₁.probeAny f₁ w vs) (e₂.probeAny f₂ w vs) := by
  induction vs with
  | nil => exact Search.alike_pure rfl
  | cons v vs ih =>
    refine Search.alike_bind (alike_probe h hk hw v) ?_
    rintro valid _ rfl
    exact Search.alike_ite valid (Search.alike_pure rfl) ih

theorem alike_applyContainsDraft7 (h : Alike S K e₁ e₂) (hk : K f₁ (.object m₁) f₂ (.object m₂))
    (hv : ("contains", v) ∈ m₁) (target : Value) :
    Trace.Alike S (e₁.applyContainsDraft7 ⟨f₁, m₁, target⟩ v)
      (e₂.applyContainsDraft7 ⟨f₂, m₂, target⟩ v) := by
  unfold applyContainsDraft7
  cases target with
  | array items =>
    refine Trace.alike_after (alike_probeAny h hk (.whole (by decide) hv) items) ?_
    rintro found _ rfl
    exact Trace.alike_sayIf _ _
  | _ => exact .done

theorem alike_applyProperties (h : Alike S K e₁ e₂) (hk : K f₁ (.object m₁) f₂ (.object m₂))
    (hv : ("properties", v) ∈ m₁) (target : Value) :
    Trace.Alike S (e₁.applyProperties ⟨f₁, m₁, target⟩ v) (e₂.applyProperties ⟨f₂, m₂, target⟩ v) := by
  unfold applyProperties
  cases target with
  | object members =>
    refine Trace.alike_each fun ⟨name, schema⟩ hm => ?_
    dsimp only
    split
    · exact alike_descend h hk (subschema_of_named (by decide) hv hm) _ _ _
    · exact .done
  | _ => exact .done

theorem alike_applyPropertiesDraft3 (h : Alike S K e₁ e₂) (hk : K f₁ (.object m₁) f₂ (.object m₂))
    (hv : ("properties", v) ∈ m₁) (target : Value) :
    Trace.Alike S (e₁.applyPropertiesDraft3 ⟨f₁, m₁, target⟩ v)
      (e₂.applyPropertiesDraft3 ⟨f₂, m₂, target⟩ v) := by
  unfold applyPropertiesDraft3
  cases target with
  | object members =>
    refine Trace.alike_each fun ⟨name, schema⟩ hm => ?_
    dsimp only
    split
    · exact alike_descend h hk (subschema_of_named (by decide) hv hm) _ _ _
    · exact Trace.alike_ite (Trace.alike_report _) .done
  | _ => exact .done

theorem alike_applyPatternProperties (h : Alike S K e₁ e₂) (hk : K f₁ (.object m₁) f₂ (.object m₂))
    (hv : ("patternProperties", v) ∈ m₁) (target : Value) :
    Trace.Alike S (e₁.applyPatternProperties ⟨f₁, m₁, target⟩ v)
      (e₂.applyPatternProperties ⟨f₂, m₂, target⟩ v) := by
  unfold applyPatternProperties
  cases target with
  | object members =>
    refine Trace.alike_each fun ⟨pattern, schema⟩ hm => Trace.alike_each fun ⟨name, member⟩ _ => ?_
    dsimp only
    split
    · exact alike_descend h hk (subschema_of_named (by decide) hv hm) _ _ _
    · exact .done
    · exact .stop (h.places.mishap _)
  | _ => exact .done

theorem extraNames_eq (h : Alike S K e₁ e₂) (hk : K f₁ (.object m₁) f₂ (.object m₂))
    (members : Members) : extraNames m₂ members = extraNames m₁ members := by
  unfold extraNames
  rw [get?_eq h hk (show "properties" ≠ "$id" by decide),
    get?_eq h hk (show "patternProperties" ≠ "$id" by decide)]

theorem extraMessage_eq (h : Alike S K e₁ e₂) (hk : K f₁ (.object m₁) f₂ (.object m₂))
    (extras : List String) : extraMessage m₂ extras = extraMessage m₁ extras := by
  unfold extraMessage
  rw [get?_eq h hk (show "patternProperties" ≠ "$id" by decide)]

theorem alike_applyAdditionalProperties (h : Alike S K e₁ e₂)
    (hk : K f₁ (.object m₁) f₂ (.object m₂)) (hv : ("additionalProperties", v) ∈ m₁)
    (target : Value) :
    Trace.Alike S (e₁.applyAdditionalProperties ⟨f₁, m₁, target⟩ v)
      (e₂.applyAdditionalProperties ⟨f₂, m₂, target⟩ v) := by
  unfold applyAdditionalProperties
  cases target with
  | object members =>
    dsimp only
    rw [extraNames_eq h hk]
    split
    · exact .stop (h.places.mishap _)
    · split
      · refine Trace.alike_each fun name _ => ?_
        split
        · exact alike_descend h hk (.whole (by decide) hv) _ _ _
        · exact .done
      · rw [extraMessage_eq h hk]
        exact Trace.alike_sayIf _ _
  | _ => exact .done

theorem alike_applyPropertyNames (h : Alike S K e₁ e₂) (hk : K f₁ (.object m₁) f₂ (.object m₂))
    (hv : ("propertyNames", v) ∈ m₁) (target : Value) :
    Trace.Alike S (e₁.applyPropertyNames ⟨f₁, m₁, target⟩ v)
      (e₂.applyPropertyNames ⟨f₂, m₂, target⟩ v) := by
  unfold applyPropertyNames
  cases target with
  | object members =>
    exact Trace.alike_each fun name _ => alike_descendHere h hk (.whole (by decide) hv) _
  | _ => exact .done

theorem alike_applyRequired (hm : ∀ m, S (.mishap m) (.mishap m)) (target v : Value) :
    Trace.Alike S (applyRequired ⟨f₁, m₁, target⟩ v) (applyRequired ⟨f₂, m₂, target⟩ v) := by
  unfold applyRequired
  cases target with
  | object members =>
    dsimp only
    split
    · exact .stop (hm _)
    · exact Trace.alike_each fun name _ => Trace.alike_report _
  | _ => exact .done

theorem alike_applyNames (hm : ∀ m, S (.mishap m) (.mishap m)) (members : Members)
    (property : String) (names : Value) :
    Trace.Alike S (applyNames members property names) (applyNames members property names) := by
  unfold applyNames
  split
  · exact .stop (hm _)
  · exact Trace.alike_each fun message _ => Trace.alike_say message

theorem alike_eachDependency {f g : Members → String → Value → Trace} {target : Value}
    (h : ∀ members property dependency, (property, dependency) ∈ schemasByName v →
      Trace.Alike S (f members property dependency) (g members property dependency)) :
    Trace.Alike S (eachDependency ⟨f₁, m₁, target⟩ v f) (eachDependency ⟨f₂, m₂, target⟩ v g) := by
  unfold eachDependency
  cases target with
  | object members => exact Trace.alike_each fun p hm => Trace.alike_ite (h _ _ _ hm) .done
  | _ => exact .done

theorem alike_applyDependentSchemas (h : Alike S K e₁ e₂) (hk : K f₁ (.object m₁) f₂ (.object m₂))
    (hv : ("dependentSchemas", v) ∈ m₁) (target : Value) :
    Trace.Alike S (e₁.applyDependentSchemas ⟨f₁, m₁, target⟩ v)
      (e₂.applyDependentSchemas ⟨f₂, m₂, target⟩ v) :=
  alike_eachDependency fun _ _ _ hm =>
    alike_descend h hk (subschema_of_named (by decide) hv hm) _ _ _

theorem alike_applyDependenciesDraft7 (h : Alike S K e₁ e₂)
    (hk : K f₁ (.object m₁) f₂ (.object m₂)) (hv : ("dependencies", v) ∈ m₁) (target : Value) :
    Trace.Alike S (e₁.applyDependenciesDraft7 ⟨f₁, m₁, target⟩ v)
      (e₂.applyDependenciesDraft7 ⟨f₂, m₂, target⟩ v) := by
  refine alike_eachDependency fun members property dependency hm => ?_
  split
  · exact alike_applyNames h.places.mishap _ _ _
  · exact alike_descend h hk (subschema_of_named (by decide) hv hm) _ _ _

theorem alike_applyDependenciesDraft3 (h : Alike S K e₁ e₂)
    (hk : K f₁ (.object m₁) f₂ (.object m₂)) (hv : ("dependencies", v) ∈ m₁) (target : Value) :
    Trace.Alike S (e₁.applyDependenciesDraft3 ⟨f₁, m₁, target⟩ v)
      (e₂.applyDependenciesDraft3 ⟨f₂, m₂, target⟩ v) := by
  refine alike_eachDependency fun members property dependency hm => ?_
  split
  · exact alike_descend h hk (subschema_of_named (by decide) hv hm) _ _ _
  · exact alike_applyNames h.places.mishap _ _ _
  · exact alike_applyNames h.places.mishap _ _ _

theorem alike_applyAllOf (h : Alike S K e₁ e₂) (hk : K f₁ (.object m₁) f₂ (.object m₂))
    {keyword : String} (hp : keyword ∈ partKeywords) (hv : (keyword, v) ∈ m₁) (target : Value) :
    Trace.Alike S (e₁.applyAllOf ⟨f₁, m₁, target⟩ v) (e₂.applyAllOf ⟨f₂, m₂, target⟩ v) := by
  refine Trace.alike_each fun ⟨schema, index⟩ hm => ?_
  exact alike_descend h hk (subschema_of_listed hp hv (List.fst_mem_of_mem_zipIdx hm)) _ _ _

theorem alike_firstValid (h : Alike S K e₁ e₂) (hk : K f₁ (.object m₁) f₂ (.object m₂))
    (target : Value) {schemas : List Value} (hw : ∀ w ∈ schemas, Subschema m₁ w) :
    Search.Alike S (fun x y => x = y ∧ ∀ p ∈ x, ∀ w ∈ p.2, Subschema m₁ w)
      (e₁.firstValid ⟨f₁, m₁, target⟩ schemas) (e₂.firstValid ⟨f₂, m₂, target⟩ schemas) := by
  induction schemas with
  | nil => exact Search.alike_pure ⟨rfl, nofun⟩
  | cons schema schemas ih =>
    obtain ⟨hs, hl⟩ := List.forall_mem_cons.mp hw
    refine Search.alike_bind (Trace.alike_findings (alike_descendHere h hk hs target)) ?_
    rintro findings _ rfl
    refine Search.alike_ite _ (Search.alike_pure ⟨rfl, ?_⟩) (ih hl)
    rintro _ ⟨⟩
    exact hl

theorem alike_applyAnyOf (h : Alike S K e₁ e₂) (hk : K f₁ (.object m₁) f₂ (.object m₂))
    (hv : ("anyOf", v) ∈ m₁) (target : Value) :
    Trace.Alike S (e₁.applyAnyOf ⟨f₁, m₁, target⟩ v) (e₂.applyAnyOf ⟨f₂, m₂, target⟩ v) := by
  refine Trace.alike_after (alike_firstValid h hk target fun w hw =>
    subschema_of_listed (by decide) hv hw) ?_
  rintro found _ ⟨rfl, -⟩
  exact Trace.alike_sayIf _ _

theorem alike_applyOneOf (h : Alike S K e₁ e₂) (hk : K f₁ (.object m₁) f₂ (.object m₂))
    (hv : ("oneOf", v) ∈ m₁) (target : Value) :
    Trace.Alike S (e₁.applyOneOf ⟨f₁, m₁, target⟩ v) (e₂.applyOneOf ⟨f₂, m₂, target⟩ v) := by
  refine Trace.alike_after (alike_firstValid h hk target fun w hw =>
    subschema_of_listed (by decide) hv hw) ?_
  rintro found _ ⟨rfl, hothers⟩
  cases found with
  | none => exact Trace.alike_say _
  | some found =>
    refine Trace.alike_after (alike_filterSearch fun w hw =>
      alike_probe h hk (hothers found rfl w hw) target) ?_
    rintro more _ rfl
    exact Trace.alike_sayIf _ _

theorem alike_applyNot (h : Alike S K e₁ e₂) (hk : K f₁ (.object m₁) f₂ (.object m₂))
    (hv : ("not", v) ∈ m₁) (target : Value) :
    Trace.Alike S (e₁.applyNot ⟨f₁, m₁, target⟩ v) (e₂.applyNot ⟨f₂, m₂, target⟩ v) := by
  refine Trace.alike_after (alike_probe h hk (.whole (by decide) hv) target) ?_
  rintro valid _ rfl
  exact Trace.alike_sayIf _ _

theorem alike_applyIf (h : Alike S K e₁ e₂) (hk : K f₁ (.object m₁) f₂ (.object m₂))
    (hv : ("if", v) ∈ m₁) (target : Value) :
    Trace.Alike S (e₁.applyIf ⟨f₁, m₁, target⟩ v) (e₂.applyIf ⟨f₂, m₂, target⟩ v) := by
  refine Trace.alike_after (alike_probe h hk (.whole (by decide) hv) target) ?_
  rintro valid _ rfl
  have hpart : (if valid then "then" else "else") ∈ partKeywords := by
    cases valid <;> decide
  have hname : (if valid then "then" else "else") ≠ "$id" := by
    cases valid <;> decide
  dsimp only
  rw [get?_eq h hk hname]
  split
  · next schema hs => exact alike_descend h hk (subschema_of_get? hpart hs) _ _ _
  · exact .done

theorem alike_applyExtends (h : Alike S K e₁ e₂) (hk : K f₁ (.object m₁) f₂ (.object m₂))
    (hv : ("extends", v) ∈ m₁) (target : Value) :
    Trace.Alike S (e₁.applyExtends ⟨f₁, m₁, target⟩ v) (e₂.applyExtends ⟨f₂, m₂, target⟩ v) := by
  unfold applyExtends
  split
  · exact alike_descendHere h hk (.whole (by decide) hv) target
  · exact alike_applyAllOf h hk (by decide) hv target

theorem alike_hasSomeTypeDraft3 (h : Alike S K e₁ e₂) (hk : K f₁ (.object m₁) f₂ (.object m₂))
    (target : Value) (types : List Value) (hw : ∀ w ∈ types, Subschema m₁ w) :
    Search.Alike S Eq (e₁.hasSomeTypeDraft3 ⟨f₁, m₁, target⟩ types)
      (e₂.hasSomeTypeDraft3 ⟨f₂, m₂, target⟩ types) := by
  induction types with
  | nil => exact Search.alike_pure rfl
  | cons type types ih =>
    obtain ⟨hs, hl⟩ := List.forall_mem_cons.mp hw
    have hnamed (hany : type ≠ .string "any") (hobject : ∀ schema, type ≠ .object schema) :
        Search.Alike S Eq (e₁.hasSomeTypeDraft3 ⟨f₁, m₁, target⟩ (type :: types))
          (e₂.hasSomeTypeDraft3 ⟨f₂, m₂, target⟩ (type :: types)) := by
      rw [hasSomeTypeDraft3.eq_4 _ _ _ _ hany hobject, hasSomeTypeDraft3.eq_4 _ _ _ _ hany hobject,
        ← h.places.dialect hk]
      refine Search.alike_bind (alike_ofExcept h.places.mishap _) ?_
      rintro holds _ rfl
      exact Search.alike_ite _ (Search.alike_pure rfl) (ih hl)
    cases type with
    | object schema =>
      refine Search.alike_bind (Trace.alike_findings (alike_descendHere h hk hs target)) ?_
      rintro findings _ rfl
      exact Search.alike_ite _ (Search.alike_pure rfl) (ih hl)
    | string s =>
      by_cases hany : s = "any"
      · subst hany
        exact Search.alike_pure rfl
      · exact hnamed (by simpa using hany) nofun
    | _ => exact hnamed nofun nofun

theorem alike_applyTypeDraft3 (h : Alike S K e₁ e₂) (hk : K f₁ (.object m₁) f₂ (.object m₂))
    (hv : ("type", v) ∈ m₁) (target : Value) :
    Trace.Alike S (e₁.applyTypeDraft3 ⟨f₁, m₁, target⟩ v) (e₂.applyTypeDraft3 ⟨f₂, m₂, target⟩ v) := by
  refine Trace.alike_after (alike_hasSomeTypeDraft3 h hk target (asList v) fun w hw =>
    subschema_of_asList (by decide) hv hw) ?_
  rintro holds _ rfl
  exact Trace.alike_sayIf _ _

theorem alike_applyDisallow (h : Alike S K e₁ e₂) (hk : K f₁ (.object m₁) f₂ (.object m₂))
    (hv : ("disallow", v) ∈ m₁) (target : Value) :
    Trace.Alike S (e₁.applyDisallow ⟨f₁, m₁, target⟩ v) (e₂.applyDisallow ⟨f₂, m₂, target⟩ v) := by
  refine Trace.alike_each fun type hm => ?_
  refine Trace.alike_after (alike_probe h hk (.disallowed hv hm) target) ?_
  rintro valid _ rfl
  exact Trace.alike_sayIf _ _

theorem alike_unallowedNames (h : Alike S K e₁ e₂) (hk : K f₁ (.object m₁) f₂ (.object m₂))
    (hw : Subschema m₁ w) (target : Value) (members : Members) :
    Search.Alike S Eq (e₁.unallowedNames ⟨f₁, m₁, target⟩ w members)
      (e₂.unallowedNames ⟨f₂, m₂, target⟩ w members) := by
  refine alike_collect_mem fun ⟨name, member⟩ _ => ?_
  refine Search.alike_bind (Trace.alike_findings (alike_descendHere h hk hw member)) ?_
  rintro findings _ rfl
  exact Search.alike_pure rfl

theorem alike_applyUnevaluatedProperties (h : Alike S K e₁ e₂)
    (hk : K f₁ (.object m₁) f₂ (.object m₂)) (hv : ("unevaluatedProperties", v) ∈ m₁) (fuel : Nat)
    (target : Value) :
    Trace.Alike S (e₁.applyUnevaluatedProperties fuel ⟨f₁, m₁, target⟩ v)
      (e₂.applyUnevaluatedProperties fuel ⟨f₂, m₂, target⟩ v) := by
  unfold applyUnevaluatedProperties
  cases target with
  | object members =>
    dsimp only
    rw [← h.places.dialect hk]
    refine Trace.alike_after (alike_evaluatedNames h _ fuel hk members) ?_
    rintro evaluated _ rfl
    refine Trace.alike_after (alike_unallowedNames h hk (.whole (by decide) hv) _ _) ?_
    rintro names _ rfl
    cases names with
    | nil => exact .done
    | cons name names =>
      dsimp only
      split
      · exact Trace.alike_say _
      · exact Trace.alike_say _
  | _ => exact .done

theorem alike_applyUnevaluatedItems (h : Alike S K e₁ e₂)
    (hk : K f₁ (.object m₁) f₂ (.object m₂)) (fuel : Nat) (target v : Value) :
    Trace.Alike S (e₁.applyUnevaluatedItems fuel ⟨f₁, m₁, target⟩ v)
      (e₂.applyUnevaluatedItems fuel ⟨f₂, m₂, target⟩ v) := by
  unfold applyUnevaluatedItems
  cases target with
  | array items =>
    dsimp only
    rw [← h.places.dialect hk]
    refine Trace.alike_after (alike_evaluatedItems h _ fuel hk items) ?_
    rintro evaluated _ rfl
    split
    · exact .done
    · exact Trace.alike_say _
  | _ => exact .done

theorem alike_applyMinimumDraft4 (h : Alike S K e₁ e₂) (hk : K f₁ (.object m₁) f₂ (.object m₂))
    (target v : Value) :
    Trace.Alike S (applyMinimumDraft4 ⟨f₁, m₁, target⟩ v) (applyMinimumDraft4 ⟨f₂, m₂, target⟩ v) := by
  unfold applyMinimumDraft4
  dsimp only
  rw [get?_eq h hk (show "exclusiveMinimum" ≠ "$id" by decide)]
  exact Trace.alike_ite (Trace.alike_ofVerdict h.places.mishap _)
    (Trace.alike_ofVerdict h.places.mishap _)

theorem alike_applyMaximumDraft4 (h : Alike S K e₁ e₂) (hk : K f₁ (.object m₁) f₂ (.object m₂))
    (target v : Value) :
    Trace.Alike S (applyMaximumDraft4 ⟨f₁, m₁, target⟩ v) (applyMaximumDraft4 ⟨f₂, m₂, target⟩ v) := by
  unfold applyMaximumDraft4
  dsimp only
  rw [get?_eq h hk (show "exclusiveMaximum" ≠ "$id" by decide)]
  exact Trace.alike_ite (Trace.alike_ofVerdict h.places.mishap _)
    (Trace.alike_ofVerdict h.places.mishap _)

/-- Every rule gives traces that are alike at corresponding places. -/
theorem alike_apply (h : Alike S K e₁ e₂) (hk : K f₁ (.object m₁) f₂ (.object m₂)) {keyword : String}
    {rule : Rule} (hr : Rule.ofKeyword? f₁.dialect keyword = some rule) (hv : (keyword, v) ∈ m₁)
    (fuel : Nat) (target : Value) :
    Trace.Alike S (e₁.apply fuel ⟨f₁, m₁, target⟩ v rule) (e₂.apply fuel ⟨f₂, m₂, target⟩ v rule) := by
  have hverdict (verdict : Verdict) : Trace.Alike S (.ofVerdict verdict) (.ofVerdict verdict) :=
    Trace.alike_ofVerdict h.places.mishap verdict
  have hd := h.places.dialect hk
  -- the keyword of a rule that looks at schemas or references is the same in every dialect
  have hkeyword (hne : rule.keyword ≠ "") : (rule.keyword, v) ∈ m₁ := by
    rw [← keyword_of_rule hr hne]
    exact hv
  cases rule with
  | reference => exact alike_refer h hk (by decide) (hkeyword (by decide)) target
  | dynamicReference => exact alike_refer h hk (by decide) (hkeyword (by decide)) target
  | recursiveReference => exact alike_recursiveReference h hk (hkeyword (by decide)) target
  | typeIn =>
    show Trace.Alike S (.ofVerdict (checkType f₁.dialect v target)) (.ofVerdict (checkType f₂.dialect v target))
    rw [hd]
    exact hverdict _
  | format =>
    show Trace.Alike S (if e₁.formats then _ else _) (if e₂.formats then _ else _)
    rw [h.formats]
    exact Trace.alike_ite (hverdict _) .done
  | typeInDraft3 => exact alike_applyTypeDraft3 h hk (hkeyword (by decide)) target
  | minimumDraft4 => exact alike_applyMinimumDraft4 h hk target v
  | maximumDraft4 => exact alike_applyMaximumDraft4 h hk target v
  | items => exact alike_applyItems h hk (hkeyword (by decide)) target
  | itemsDraft4 => exact alike_applyItemsDraft4 h hk (hkeyword (by decide)) target
  | itemsDraft2019 => exact alike_applyItemsDraft2019 h hk (hkeyword (by decide)) target
  | prefixItems => exact alike_applyPrefixItems h hk (hkeyword (by decide)) target
  | additionalItems => exact alike_applyAdditionalItems h hk (hkeyword (by decide)) target
  | contains => exact alike_applyContains h hk (hkeyword (by decide)) target
  | containsDraft7 => exact alike_applyContainsDraft7 h hk (hkeyword (by decide)) target
  | required => exact alike_applyRequired h.places.mishap target v
  | properties => exact alike_applyProperties h hk (hkeyword (by decide)) target
  | propertiesDraft3 => exact alike_applyPropertiesDraft3 h hk (hkeyword (by decide)) target
  | patternProperties => exact alike_applyPatternProperties h hk (hkeyword (by decide)) target
  | additionalProperties => exact alike_applyAdditionalProperties h hk (hkeyword (by decide)) target
  | propertyNames => exact alike_applyPropertyNames h hk (hkeyword (by decide)) target
  | dependentRequired =>
    exact alike_eachDependency fun _ _ _ _ => alike_applyNames h.places.mishap _ _ _
  | dependentSchemas => exact alike_applyDependentSchemas h hk (hkeyword (by decide)) target
  | dependenciesDraft3 => exact alike_applyDependenciesDraft3 h hk (hkeyword (by decide)) target
  | dependenciesDraft7 => exact alike_applyDependenciesDraft7 h hk (hkeyword (by decide)) target
  | allOf =>
    exact alike_applyAllOf h hk (show "allOf" ∈ partKeywords by decide) (hkeyword (by decide)) target
  | anyOf => exact alike_applyAnyOf h hk (hkeyword (by decide)) target
  | oneOf => exact alike_applyOneOf h hk (hkeyword (by decide)) target
  | not => exact alike_applyNot h hk (hkeyword (by decide)) target
  | ifThenElse => exact alike_applyIf h hk (hkeyword (by decide)) target
  | «extends» => exact alike_applyExtends h hk (hkeyword (by decide)) target
  | disallow => exact alike_applyDisallow h hk (hkeyword (by decide)) target
  | unevaluatedItems => exact alike_applyUnevaluatedItems h hk fuel target v
  | unevaluatedProperties =>
    exact alike_applyUnevaluatedProperties h hk (hkeyword (by decide)) fuel target
  | oneOfValues => exact hverdict (checkEnum v target)
  | constant => exact hverdict (checkConst v target)
  | _ => exact hverdict _

/-- One level of a walk: what the keywords of a schema find, with an evaluator for the schemas
below. -/
def walkStep (e : Evaluator) (fuel : Nat) (d : Dialect) (frame : Frame) (schema target : Value) :
    Trace :=
  match schema with
  | .bool true => .done
  | .bool false => .report (.ofFalse target)
  | .object members =>
    .each (fun (keyword, v) =>
      match Rule.ofKeyword? frame.dialect keyword with
      | some rule => (e.apply fuel ⟨frame, members, target⟩ v rule).map (.under keyword)
      | none => .done) (countingKeywords d members)
  | v => .stop (.mishap (.wrongType s!"'{v.typeName}' object is no schema"))

theorem alike_walkStep (h : Alike S K e₁ e₂) {s₁ s₂ : Value} (hk : K f₁ s₁ f₂ s₂) (fuel : Nat)
    (d : Dialect) (target : Value) :
    Trace.Alike S (e₁.walkStep fuel d f₁ s₁ target) (e₂.walkStep fuel d f₂ s₂ target) := by
  -- a keyword without a rule finds nothing, so identifiers can be left out
  have hobjects {m₁ m₂ : Members} (hk : K f₁ (.object m₁) f₂ (.object m₂)) :
      Trace.Alike S (e₁.walkStep fuel d f₁ (.object m₁) target)
        (e₂.walkStep fuel d f₂ (.object m₂) target) := by
    have hcount := countingKeywords_twins (withoutId_eq h hk) d
    unfold walkStep
    dsimp only
    rw [← Trace.each_filter (p := fun m => m.1 != "$id") ?_ (countingKeywords d m₁),
      ← Trace.each_filter (p := fun m => m.1 != "$id") ?_ (countingKeywords d m₂)]
    · show Trace.Alike S (.each _ (withoutId _)) (.each _ (withoutId _))
      rw [← hcount]
      refine Trace.alike_each fun ⟨keyword, v⟩ hm => ?_
      have hv := mem_of_mem_countingKeywords (List.mem_filter.mp hm).1
      dsimp only
      rw [← h.places.dialect hk]
      split
      · next rule hr => exact Trace.alike_map (alike_apply h hk hr hv fuel target)
      · exact .done
    all_goals
      rintro ⟨keyword, v⟩ hid
      have hid : keyword = "$id" := by simpa using hid
      simp only [hid, ofKeyword?_id]
  cases h.places.twins hk with
  | objects _ => exact hobjects hk
  | same =>
    cases s₁ with
    | object _ => exact hobjects hk
    | bool b =>
      cases b with
      | true => exact .done
      | false => exact Trace.alike_report _
    | _ => exact .stop (h.places.mishap _)

end Evaluator

/-! ### Walks -/

theorem walk_succ (fetch : Fetch) (formats : Bool) (fuel : Nat) (d : Dialect) (frame : Frame)
    (schema target : Value) :
    walk fetch formats (fuel + 1) d frame schema target =
      Evaluator.walkStep ⟨fetch, formats, walk fetch formats fuel⟩ fuel d frame schema target := rfl

/-- Walks of a depth are alike at corresponding places. -/
theorem alike_walk {fetch₁ fetch₂ : Fetch} (h : Correspondence S fetch₁ fetch₂ K) (formats : Bool)
    (fuel : Nat) : ∀ {f₁ s₁ f₂ s₂}, K f₁ s₁ f₂ s₂ → ∀ d target,
      Trace.Alike S (walk fetch₁ formats fuel d f₁ s₁ target)
        (walk fetch₂ formats fuel d f₂ s₂ target) := by
  induction fuel with
  | zero =>
    intro f₁ s₁ f₂ s₂ _ d target
    exact .stop (h.mishap _)
  | succ fuel ih =>
    intro f₁ s₁ f₂ s₂ hk d target
    have he : Evaluator.Alike S K ⟨fetch₁, formats, walk fetch₁ formats fuel⟩
        ⟨fetch₂, formats, walk fetch₂ formats fuel⟩ := ⟨h, rfl, ih⟩
    rw [walk_succ, walk_succ]
    exact Evaluator.alike_walkStep he hk fuel d target

end Preflight.Schema

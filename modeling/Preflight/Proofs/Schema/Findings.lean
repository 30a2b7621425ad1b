import Preflight.Proofs.Schema.Pointer
import Preflight.Schema.Compiled

/-!
# Where findings are

Each finding of an evaluation is at a place in the value that was evaluated (`Finding.Located`): its
steps lead to a value, or, for `required`, to an object and on to a member that the object lacks. A rule
says something of the value at hand or lets the findings of a subschema through, each behind the step
that leads to the part of the value it is about, so the place is kept by each rule (`finds_apply`) and
through the whole walk (`finds_walk`).
-/

namespace Preflight.Schema

open Json

variable {α : Type} {p q : Finding → Prop}

/-! ### Findings of traces -/

namespace Trace

/-- Every finding of the evaluation is as told. -/
def Finds (p : Finding → Prop) : Trace → Prop
  | .done => True
  | .stop _ => True
  | .event _ next => (next ()).Finds p
  | .finding x next => p x ∧ (next ()).Finds p

theorem finds_done : Finds p .done := trivial

theorem finds_stop (reason : Stop) : Finds p (.stop reason) := trivial

theorem finds_report {x : Finding} (h : p x) : Finds p (report x) := ⟨h, trivial⟩

theorem finds_say {message : String} (h : p (.ofMessage message)) : Finds p (say message) :=
  finds_report h

theorem finds_sayIf {message : String} (h : p (.ofMessage message)) (fails : Bool) :
    Finds p (sayIf fails message) := by
  cases fails with
  | false => exact finds_done
  | true => exact finds_say h

theorem finds_followedBy {t : Trace} {k : Unit → Trace} (ht : t.Finds p) (hk : (k ()).Finds p) :
    (t.followedBy k).Finds p := by
  induction t with
  | done => exact hk
  | stop reason => exact finds_stop reason
  | event e next ih => exact ih () ht
  | finding x next ih => exact ⟨ht.1, ih () ht.2⟩

theorem finds_each {f : α → Trace} {l : List α} (h : ∀ a ∈ l, (f a).Finds p) :
    (each f l).Finds p := by
  induction l with
  | nil => exact finds_done
  | cons a l ih =>
    obtain ⟨ha, hl⟩ := List.forall_mem_cons.mp h
    exact finds_followedBy ha (ih hl)

theorem finds_map {f : Finding → Finding} {t : Trace} (ht : t.Finds p) (hf : ∀ x, p x → q (f x)) :
    (t.map f).Finds q := by
  induction t with
  | done => exact finds_done
  | stop reason => exact finds_stop reason
  | event e next ih => exact ih () ht
  | finding x next ih => exact ⟨hf x ht.1, ih () ht.2⟩

theorem Finds.imp {t : Trace} (ht : t.Finds p) (h : ∀ x, p x → q x) : t.Finds q := by
  induction t with
  | done => exact finds_done
  | stop reason => exact finds_stop reason
  | event e next ih => exact ih () ht
  | finding x next ih => exact ⟨h x ht.1, ih () ht.2⟩

theorem finds_foldr_event {t : Trace} (events : List Event) (ht : t.Finds p) :
    (events.foldr (fun e t => .event e fun _ => t) t).Finds p := by
  induction events with
  | nil => exact ht
  | cons e events ih => exact ih

theorem finds_after {search : Search α} {k : α → Trace} (hk : ∀ a, (k a).Finds p) :
    (after search k).Finds p := by
  refine finds_foldr_event _ ?_
  split
  · exact hk _
  · exact finds_stop _

theorem finds_ofVerdict (h : ∀ message, p (.ofMessage message)) (v : Verdict) :
    Finds p (ofVerdict v) := by
  cases v with
  | error mishap => exact finds_stop _
  | ok message =>
    cases message with
    | none => exact finds_done
    | some message => exact finds_say (h message)

theorem Finds.of_findings {t : Trace} {findings : List Finding} (ht : t.Finds p)
    (h : t.findings.result = .ok findings) : ∀ x ∈ findings, p x := by
  induction t generalizing findings with
  | done =>
    cases h
    exact List.forall_mem_nil _
  | stop reason => cases h
  | event e next ih => exact ih () ht h
  | finding x next ih =>
    have hr : (next ()).findings.result.map (x :: ·) = .ok findings := h
    cases hn : (next ()).findings.result with
    | error reason =>
      rw [hn] at hr
      cases hr
    | ok rest =>
      rw [hn] at hr
      cases hr
      exact List.forall_mem_cons.mpr ⟨ht.1, ih () ht.2 hn⟩

end Trace

/-! ### Places -/

namespace Finding

/-- The tokens to the place that a finding is reported at. -/
def place (x : Finding) : List String :=
  (x.valuePath ++ (x.missing.map Step.name).toList).map Step.text

/-- The place of a finding is there in a value; or it is that of a member which an object of the value
lacks, and the finding is one of `required`. A finding without keyword counts as one of `keyword`. -/
inductive Located (keyword : String) (target : Value) (x : Finding) : Prop
  | reached {found : Value} : Reaches target x.place found → Located keyword target x
  | absent {tokens : List String} {name : String} {members : Members} :
      x.keyword.getD keyword = "required" → x.place = tokens ++ [name] →
      Reaches target tokens (.object members) → Members.get? members name = none →
      Located keyword target x

variable {x : Finding} {target inner : Value} {keyword : String} {valueStep schemaStep : Option Step}

theorem located_ofMessage (message : String) : (ofMessage message).Located keyword target :=
  .reached (.here target)

theorem located_ofFalse (v : Value) : (ofFalse v).Located keyword target := .reached (.here target)

theorem place_below : (x.below valueStep schemaStep).place =
    valueStep.toList.map Step.text ++ x.place := by
  unfold place below
  rw [List.append_assoc, List.map_append]

theorem Located.below (h : x.Located keyword inner)
    (hr : Reaches target (valueStep.toList.map Step.text) inner) :
    (x.below valueStep schemaStep).Located keyword target := by
  cases h with
  | reached hf =>
    have hb := hr.trans hf
    rw [← place_below] at hb
    exact .reached hb
  | absent hk hp ho hn =>
    refine .absent hk ?_ (hr.trans ho) hn
    rw [place_below, hp, List.append_assoc]

/-- Under a keyword, a finding has its keyword and keeps its place. -/
theorem Located.under (h : x.Located keyword target) (other : String) :
    (x.under keyword).Located other target := by
  cases h with
  | reached hf => exact .reached hf
  | absent hk hp ho hn => exact .absent hk hp ho hn

theorem Located.of_string {s : String} (h : x.Located keyword (.string s)) :
    x.Located keyword target := by
  cases h with
  | reached hf =>
    have ht : Reaches target x.place target := by
      rw [hf.of_string.1]
      exact .here target
    exact .reached ht
  | absent hk hp ho hn => cases ho.of_string.2

end Finding

/-! ### Rules -/

namespace Evaluator

variable {e : Evaluator} {keyword : String} {target inner : Value} {site : Site} {v : Value}
  {members : Members}

/-- The findings of a walk are in the value it is about, whatever keyword they are to be under. -/
def Locates (e : Evaluator) : Prop := ∀ d frame schema target,
  (e.walk d frame schema target).Finds fun x => ∀ keyword, x.Located keyword target

theorem finds_descendWith (h : e.Locates) (frame : Frame) (resolver : Resolver) (schema : Value)
    {valueStep : Option Step} (schemaStep : Option Step)
    (hr : Reaches target (valueStep.toList.map Step.text) inner) :
    (e.descendWith frame resolver schema inner valueStep schemaStep).Finds
      (·.Located keyword target) := by
  unfold descendWith
  split
  · exact Trace.finds_done
  · exact Trace.finds_report (Finding.located_ofFalse inner)
  · exact Trace.finds_after fun frame' =>
      Trace.finds_map (h _ _ _ _) fun x hx => (hx keyword).below hr

/-- A descent finds things in the part of the value that its step leads to. -/
theorem finds_descend (h : e.Locates) (frame : Frame) (schema : Value) {valueStep : Option Step}
    (schemaStep : Option Step) (hr : Reaches target (valueStep.toList.map Step.text) inner) :
    (e.descend frame schema inner valueStep schemaStep).Finds (·.Located keyword target) := by
  unfold descend
  split
  · exact finds_descendWith h _ _ _ _ hr
  · exact Trace.finds_after fun resolver => finds_descendWith h _ _ _ _ hr

theorem finds_descendHere (h : e.Locates) (frame : Frame) (schema target : Value) :
    (e.descendHere frame schema target).Finds (·.Located keyword target) :=
  finds_descend h frame schema none (.here target)

theorem finds_refer (h : e.Locates) (frame : Frame) (ref target : Value) :
    (e.refer frame ref target).Finds (·.Located keyword target) := by
  unfold refer
  split
  · exact Trace.finds_after fun found => finds_descendWith h _ _ _ _ (.here target)
  · exact Trace.finds_stop _

theorem finds_recursiveReference (h : e.Locates) (site : Site) :
    (e.applyRecursiveReference site).Finds (·.Located keyword site.target) :=
  Trace.finds_after fun _ => finds_descendWith h _ _ _ _ (.here site.target)

/-! #### Arrays -/

theorem reaches_item {items : List Value} {item : Value} {i : Nat} (h : items[i]? = some item) :
    Reaches (.array items) ((some (Step.index i)).toList.map Step.text) item :=
  .item h (.here item)

theorem finds_applyFrom (h : e.Locates) (site : Site) (schema : Value) (start : Nat)
    (items : List Value) :
    (e.applyFrom site schema start items).Finds (·.Located keyword (.array items)) := by
  refine Trace.finds_each fun ⟨item, i⟩ hm => finds_descend h _ _ _ (reaches_item ?_)
  obtain ⟨hle, hi⟩ := List.mk_mem_zipIdx_iff_le_and_getElem?_sub.mp hm
  rw [List.getElem?_drop, Nat.add_sub_cancel' hle] at hi
  exact hi

theorem finds_applyPairwise (h : e.Locates) (site : Site) (schemas items : List Value) :
    (e.applyPairwise site schemas items).Finds (·.Located keyword (.array items)) := by
  refine Trace.finds_each fun ⟨⟨item, schema⟩, i⟩ hm => finds_descend h _ _ _ (reaches_item ?_)
  have hz := List.mk_mem_zipIdx_iff_getElem?.mp hm
  exact (List.getElem?_zip_eq_some.mp hz).1

theorem finds_applyPrefixItems (h : e.Locates) (site : Site) (v : Value) :
    (e.applyPrefixItems site v).Finds (·.Located keyword site.target) := by
  unfold applyPrefixItems
  cases site.target with
  | array items => exact finds_applyPairwise h _ _ _
  | _ => exact Trace.finds_done

theorem finds_applyItems (h : e.Locates) (site : Site) (v : Value) :
    (e.applyItems site v).Finds (·.Located keyword site.target) := by
  unfold applyItems
  cases site.target with
  | array items =>
    dsimp only
    split
    · exact Trace.finds_done
    · exact Trace.finds_say (Finding.located_ofMessage _)
    · exact finds_applyFrom h _ _ _ _
  | _ => exact Trace.finds_done

theorem finds_applyItemsDraft4 (h : e.Locates) (site : Site) (v : Value) :
    (e.applyItemsDraft4 site v).Finds (·.Located keyword site.target) := by
  unfold applyItemsDraft4
  cases site.target with
  | array items =>
    dsimp only
    split
    · exact finds_applyFrom h _ _ _ _
    · exact finds_applyPairwise h _ _ _
  | _ => exact Trace.finds_done

theorem finds_applyItemsDraft2019 (h : e.Locates) (site : Site) (v : Value) :
    (e.applyItemsDraft2019 site v).Finds (·.Located keyword site.target) := by
  unfold applyItemsDraft2019
  cases site.target with
  | array items =>
    dsimp only
    split
    · exact finds_applyPairwise h _ _ _
    · exact finds_applyFrom h _ _ _ _
  | _ => exact Trace.finds_done

theorem finds_applyAdditionalItems (h : e.Locates) (site : Site) (v : Value) :
    (e.applyAdditionalItems site v).Finds (·.Located keyword site.target) := by
  unfold applyAdditionalItems
  cases site.target with
  | array items =>
    dsimp only
    split
    · exact Trace.finds_done
    · exact Trace.finds_done
    · next ht hi =>
      cases ht
      split
      · exact finds_applyFrom h _ _ _ _
      · exact Trace.finds_sayIf (Finding.located_ofMessage _) _
    · exact Trace.finds_stop _
    · exact Trace.finds_done
  | _ => exact Trace.finds_done

theorem finds_applyContains (site : Site) (v : Value) :
    (e.applyContains site v).Finds (·.Located keyword site.target) := by
  unfold applyContains
  split
  · dsimp only
    split
    · refine Trace.finds_after fun count => ?_
      split
      · exact Trace.finds_report (.reached (.here _))
      · split
        · split
          · exact Trace.finds_say (Finding.located_ofMessage _)
          · exact Trace.finds_report (.reached (.here _))
        · exact Trace.finds_done
    · exact Trace.finds_stop _
    · exact Trace.finds_stop _
  · exact Trace.finds_done

theorem finds_applyContainsDraft7 (site : Site) (v : Value) :
    (e.applyContainsDraft7 site v).Finds (·.Located keyword site.target) := by
  unfold applyContainsDraft7
  split
  · exact Trace.finds_after fun found => Trace.finds_sayIf (Finding.located_ofMessage _) _
  · exact Trace.finds_done

/-! #### Objects -/

theorem reaches_member {name : String} {member : Value} (h : (name, member) ∈ members) :
    Reaches (.object members) ((some (Step.name name)).toList.map Step.text) member :=
  .member h (.here member)

theorem finds_applyProperties (h : e.Locates) (site : Site) (v : Value) :
    (e.applyProperties site v).Finds (·.Located keyword site.target) := by
  unfold applyProperties
  cases site.target with
  | object members =>
    refine Trace.finds_each fun ⟨name, schema⟩ _ => ?_
    dsimp only
    split
    · next member hm => exact finds_descend h _ _ _ (reaches_member (mem_of_get? hm))
    · exact Trace.finds_done
  | _ => exact Trace.finds_done

theorem finds_applyPropertiesDraft3 (h : e.Locates) (site : Site) (v : Value) :
    (e.applyPropertiesDraft3 site v).Finds (·.Located keyword site.target) := by
  unfold applyPropertiesDraft3
  cases site.target with
  | object members =>
    refine Trace.finds_each fun ⟨name, schema⟩ _ => ?_
    dsimp only
    split
    · next member hm => exact finds_descend h _ _ _ (reaches_member (mem_of_get? hm))
    · next hm =>
      split
      · exact Trace.finds_report (.absent rfl (List.nil_append [name]).symm (.here _) hm)
      · exact Trace.finds_done
  | _ => exact Trace.finds_done

theorem finds_applyPatternProperties (h : e.Locates) (site : Site) (v : Value) :
    (e.applyPatternProperties site v).Finds (·.Located keyword site.target) := by
  unfold applyPatternProperties
  cases site.target with
  | object members =>
    refine Trace.finds_each fun ⟨pattern, schema⟩ _ => ?_
    refine Trace.finds_each fun ⟨name, member⟩ hm => ?_
    dsimp only
    split
    · exact finds_descend h _ _ _ (reaches_member hm)
    · exact Trace.finds_done
    · exact Trace.finds_stop _
  | _ => exact Trace.finds_done

theorem finds_applyAdditionalProperties (h : e.Locates) (site : Site) (v : Value) :
    (e.applyAdditionalProperties site v).Finds (·.Located keyword site.target) := by
  unfold applyAdditionalProperties
  cases site.target with
  | object members =>
    dsimp only
    split
    · exact Trace.finds_stop _
    · split
      · refine Trace.finds_each fun name _ => ?_
        split
        · next member hm => exact finds_descend h _ _ _ (reaches_member (mem_of_get? hm))
        · exact Trace.finds_done
      · exact Trace.finds_sayIf (Finding.located_ofMessage _) _
  | _ => exact Trace.finds_done

/-- What is wrong with the names of an object is found at the object. -/
theorem finds_applyPropertyNames (h : e.Locates) (site : Site) (v : Value) :
    (e.applyPropertyNames site v).Finds (·.Located keyword site.target) := by
  unfold applyPropertyNames
  cases site.target with
  | object members =>
    refine Trace.finds_each fun name _ => ?_
    have hname : (e.descendHere site.frame v (.string name)).Finds
        (·.Located keyword (.string name)) := finds_descendHere h _ _ _
    exact hname.imp fun x hx => hx.of_string
  | _ => exact Trace.finds_done

/-- A missing property is found at its own place, which may be there only if its name is no text. -/
theorem finds_applyRequired (site : Site) (v : Value) :
    (applyRequired site v).Finds (·.Located "required" site.target) := by
  unfold applyRequired
  cases site.target with
  | object members =>
    dsimp only
    split
    · exact Trace.finds_stop _
    · refine Trace.finds_each fun asked _ => Trace.finds_report ?_
      cases hm : missingProperty (.object members) v s!"{asked.show} is a required property" with
      | none => exact .reached (.here _)
      | some name =>
        cases hg : Members.get? members name with
        | some member => exact .reached (Reaches.of_get? hg)
        | none => exact .absent rfl (List.nil_append [name]).symm (.here _) hg
  | _ => exact Trace.finds_done

theorem finds_applyNames (members : Members) (property : String) (names : Value) :
    (applyNames members property names).Finds (·.Located keyword target) := by
  unfold applyNames
  split
  · exact Trace.finds_stop _
  · exact Trace.finds_each fun message _ => Trace.finds_say (Finding.located_ofMessage _)

theorem finds_eachDependency {f : Members → String → Value → Trace} (site : Site) (v : Value)
    (hf : ∀ members property dependency, (f members property dependency).Finds p) :
    (eachDependency site v f).Finds p := by
  unfold eachDependency
  split
  · refine Trace.finds_each fun ⟨property, dependency⟩ _ => ?_
    dsimp only
    split
    · exact hf _ _ _
    · exact Trace.finds_done
  · exact Trace.finds_done

theorem finds_applyDependentSchema (h : e.Locates) (site : Site) (property : String)
    (schema : Value) :
    (e.applyDependentSchema site property schema).Finds (·.Located keyword site.target) :=
  finds_descend h _ _ _ (.here site.target)

theorem finds_applyDependenciesDraft7 (h : e.Locates) (site : Site) (v : Value) :
    (e.applyDependenciesDraft7 site v).Finds (·.Located keyword site.target) := by
  refine finds_eachDependency _ _ fun members property dependency => ?_
  split
  · exact finds_applyNames _ _ _
  · exact finds_applyDependentSchema h _ _ _

theorem finds_applyDependenciesDraft3 (h : e.Locates) (site : Site) (v : Value) :
    (e.applyDependenciesDraft3 site v).Finds (·.Located keyword site.target) := by
  refine finds_eachDependency _ _ fun members property dependency => ?_
  split
  · exact finds_applyDependentSchema h _ _ _
  · exact finds_applyNames _ _ _
  · exact finds_applyNames _ _ _

/-! #### Combinations -/

theorem finds_applyAllOf (h : e.Locates) (site : Site) (v : Value) :
    (e.applyAllOf site v).Finds (·.Located keyword site.target) :=
  Trace.finds_each fun _ _ => finds_descend h _ _ _ (.here site.target)

theorem finds_applyOneOf (site : Site) (v : Value) :
    (e.applyOneOf site v).Finds (·.Located keyword site.target) := by
  refine Trace.finds_after fun found => ?_
  split
  · exact Trace.finds_say (Finding.located_ofMessage _)
  · exact Trace.finds_after fun more => Trace.finds_sayIf (Finding.located_ofMessage _) _

theorem finds_applyIf (h : e.Locates) (site : Site) (v : Value) :
    (e.applyIf site v).Finds (·.Located keyword site.target) := by
  refine Trace.finds_after fun valid => ?_
  dsimp only
  split
  · exact finds_descend h _ _ _ (.here site.target)
  · exact Trace.finds_done

theorem finds_applyExtends (h : e.Locates) (site : Site) (v : Value) :
    (e.applyExtends site v).Finds (·.Located keyword site.target) := by
  unfold applyExtends
  split
  · exact finds_descendHere h _ _ _
  · exact finds_applyAllOf h _ _

theorem finds_applyUnevaluatedProperties (fuel : Nat) (site : Site) (v : Value) :
    (e.applyUnevaluatedProperties fuel site v).Finds (·.Located keyword site.target) := by
  unfold applyUnevaluatedProperties
  split
  · refine Trace.finds_after fun evaluated => Trace.finds_after fun names => ?_
    split
    · exact Trace.finds_done
    · split
      · exact Trace.finds_say (Finding.located_ofMessage _)
      · exact Trace.finds_say (Finding.located_ofMessage _)
  · exact Trace.finds_done

theorem finds_applyUnevaluatedItems (fuel : Nat) (site : Site) (v : Value) :
    (e.applyUnevaluatedItems fuel site v).Finds (·.Located keyword site.target) := by
  unfold applyUnevaluatedItems
  split
  · refine Trace.finds_after fun evaluated => ?_
    split
    · exact Trace.finds_done
    · exact Trace.finds_say (Finding.located_ofMessage _)
  · exact Trace.finds_done

theorem finds_apply (h : e.Locates) (fuel : Nat) (site : Site) (v : Value) {rule : Rule}
    (hk : rule = .required → keyword = "required") :
    (e.apply fuel site v rule).Finds (·.Located keyword site.target) := by
  have hsaid : ∀ verdict, (Trace.ofVerdict verdict).Finds (·.Located keyword site.target) :=
    Trace.finds_ofVerdict fun message => Finding.located_ofMessage message
  have hsay : ∀ fails message,
      (Trace.sayIf fails message).Finds (·.Located keyword site.target) :=
    fun fails message => Trace.finds_sayIf (Finding.located_ofMessage message) fails
  cases rule with
  | required =>
    rw [hk rfl]
    exact finds_applyRequired site v
  | reference => exact finds_refer h _ _ _
  | dynamicReference => exact finds_refer h _ _ _
  | recursiveReference => exact finds_recursiveReference h site
  | oneOfValues => exact hsaid (checkEnum v site.target)
  | constant => exact hsaid (checkConst v site.target)
  | typeInDraft3 => exact Trace.finds_after fun _ => hsay _ _
  | minimumDraft4 =>
    show (if _ then _ else _ : Trace).Finds _
    split
    · exact hsaid _
    · exact hsaid _
  | maximumDraft4 =>
    show (if _ then _ else _ : Trace).Finds _
    split
    · exact hsaid _
    · exact hsaid _
  | format =>
    show (if _ then _ else _ : Trace).Finds _
    split
    · exact hsaid _
    · exact Trace.finds_done
  | items => exact finds_applyItems h site v
  | itemsDraft4 => exact finds_applyItemsDraft4 h site v
  | itemsDraft2019 => exact finds_applyItemsDraft2019 h site v
  | prefixItems => exact finds_applyPrefixItems h site v
  | additionalItems => exact finds_applyAdditionalItems h site v
  | contains => exact finds_applyContains site v
  | containsDraft7 => exact finds_applyContainsDraft7 site v
  | properties => exact finds_applyProperties h site v
  | propertiesDraft3 => exact finds_applyPropertiesDraft3 h site v
  | patternProperties => exact finds_applyPatternProperties h site v
  | additionalProperties => exact finds_applyAdditionalProperties h site v
  | propertyNames => exact finds_applyPropertyNames h site v
  | dependentRequired => exact finds_eachDependency _ _ fun _ _ _ => finds_applyNames _ _ _
  | dependentSchemas =>
    exact finds_eachDependency _ _ fun _ _ _ => finds_applyDependentSchema h site _ _
  | dependenciesDraft3 => exact finds_applyDependenciesDraft3 h site v
  | dependenciesDraft7 => exact finds_applyDependenciesDraft7 h site v
  | allOf => exact finds_applyAllOf h site v
  | anyOf => exact Trace.finds_after fun _ => hsay _ _
  | oneOf => exact finds_applyOneOf site v
  | not => exact Trace.finds_after fun _ => hsay _ _
  | ifThenElse => exact finds_applyIf h site v
  | «extends» => exact finds_applyExtends h site v
  | disallow => exact Trace.finds_each fun _ _ => Trace.finds_after fun _ => hsay _ _
  | unevaluatedItems => exact finds_applyUnevaluatedItems fuel site v
  | unevaluatedProperties => exact finds_applyUnevaluatedProperties fuel site v
  | _ => exact hsaid _

end Evaluator

/-! ### The walk -/

/-- No dialect has the rule of `required` under another keyword. -/
theorem keyword_of_required {d : Dialect} {keyword : String}
    (h : Rule.ofKeyword? d keyword = some .required) : keyword = "required" := by
  have hall : ∀ p ∈ Rule.table d, p.2 = .required → p.1 = "required" := by
    cases d <;> decide +kernel
  unfold Rule.ofKeyword? at h
  rw [List.lookup_eq_some_iff] at h
  obtain ⟨before, after, ht, -⟩ := h
  exact hall (keyword, .required) (by rw [ht]; simp) rfl

theorem finds_walk (fetch : Fetch) (formats : Bool) (fuel : Nat) :
    ∀ d frame schema target, (walk fetch formats fuel d frame schema target).Finds fun x =>
      ∀ keyword, x.Located keyword target := by
  induction fuel with
  | zero =>
    intro d frame schema target
    exact Trace.finds_stop _
  | succ fuel ih =>
    intro d frame schema target
    have he : Evaluator.Locates ⟨fetch, formats, walk fetch formats fuel⟩ := ih
    unfold walk
    split
    · exact Trace.finds_done
    · exact Trace.finds_report fun keyword => Finding.located_ofFalse target
    · refine Trace.finds_each fun ⟨keyword, v⟩ _ => ?_
      dsimp only
      split
      · next rule hr =>
        have hk : rule = .required → keyword = "required" := by
          rintro rfl
          exact keyword_of_required hr
        exact Trace.finds_map (Evaluator.finds_apply he fuel _ v hk) fun x hx => hx.under
      · exact Trace.finds_done
    · exact Trace.finds_stop _

end Preflight.Schema

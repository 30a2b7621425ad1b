import Preflight.Proofs.Schema.Effects

/-!
# What a walk through a schema shows

Every rule evaluates subschemas by the walk that its evaluator is given, and finds what references
lead to by its fetch (`Evaluator.Shows`). So each rule shows what these show (`Evaluator.shows_apply`),
and by induction on its depth the walk itself shows what its fetches show (`shows_walk`).
-/

namespace Preflight.Schema

open Json Source

variable {p : Event → Prop} {α β : Type}

theorem Trace.shows_ite {c : Prop} [Decidable c] {s t : Trace} (hs : s.Shows p) (ht : t.Shows p) :
    (if c then s else t).Shows p := by
  split
  · exact hs
  · exact ht

namespace Evaluator

/-- What an evaluator is given shows what is told. -/
structure Shows (p : Event → Prop) (e : Evaluator) : Prop where
  fetch : ∀ url, (e.fetch url).Shows p
  walk : ∀ d frame schema target, (e.walk d frame schema target).Shows p

variable {e : Evaluator}

/-! ### Descents -/

theorem shows_inside (frame : Frame) (resolver : Resolver) (schema : Value) :
    (inside frame resolver schema).Shows p :=
  Run.shows_bind (shows_ofUrl _) fun _ => Run.shows_pure _

theorem shows_descendWith (h : e.Shows p) (frame : Frame) (resolver : Resolver)
    (schema target : Value) (i j : Option Step) :
    (e.descendWith frame resolver schema target i j).Shows p := by
  unfold descendWith
  split
  · exact Trace.shows_done
  · exact Trace.shows_report _
  · exact Trace.shows_after (shows_inside _ _ _) fun _ => Trace.shows_map (h.walk _ _ _ _)

theorem shows_descend (h : e.Shows p) (frame : Frame) (schema target : Value) (i j : Option Step) :
    (e.descend frame schema target i j).Shows p := by
  unfold descend
  split
  · exact shows_descendWith h _ _ _ _ _ _
  · exact Trace.shows_after (Resolver.shows_enter _ _) fun _ => shows_descendWith h _ _ _ _ _ _

theorem shows_descendHere (h : e.Shows p) (frame : Frame) (schema target : Value) :
    (e.descendHere frame schema target).Shows p := shows_descend h _ _ _ _ _

theorem shows_probe (h : e.Shows p) (frame : Frame) (schema target : Value) :
    (e.probe frame schema target).Shows p :=
  Run.shows_bind (shows_inside _ _ _) fun _ => Trace.shows_isClean (h.walk _ _ _ _)

theorem shows_refer (h : e.Shows p) (frame : Frame) (ref target : Value) :
    (e.refer frame ref target).Shows p := by
  unfold refer
  split
  · exact Trace.shows_after (Resolver.shows_lookup h.fetch _ _) fun _ =>
      shows_descendWith h _ _ _ _ _ _
  · exact Trace.shows_stop _

theorem shows_recursiveReference (h : e.Shows p) (site : Site) :
    (e.applyRecursiveReference site).Shows p :=
  Trace.shows_after (Run.shows_mapError (Resolver.shows_lookupRecursive h.fetch _)) fun _ =>
    shows_descendWith h _ _ _ _ _ _

/-! ### What has been evaluated -/

theorem shows_filterSearch {test : α → Search Bool} (h : ∀ a, (test a).Shows p) (l : List α) :
    (filterSearch test l).Shows p := by
  induction l with
  | nil => exact Run.shows_pure _
  | cons a l ih => exact Run.shows_bind (h a) fun _ => Run.shows_bind ih fun _ => Run.shows_pure _

theorem shows_collect_mem {f : α → Search (List β)} {l : List α} (h : ∀ a ∈ l, (f a).Shows p) :
    (collect f l).Shows p := by
  induction l with
  | nil => exact Run.shows_pure _
  | cons a l ih =>
    obtain ⟨ha, hl⟩ := List.forall_mem_cons.mp h
    exact Run.shows_bind ha fun _ => Run.shows_bind (ih hl) fun _ => Run.shows_pure _

theorem shows_collect {f : α → Search (List β)} (h : ∀ a, (f a).Shows p) (l : List α) :
    (collect f l).Shows p := shows_collect_mem fun a _ => h a

theorem shows_validBelow (h : e.Shows p) (frame : Frame) (schema target : Value) :
    (e.validBelow frame schema target).Shows p := Trace.shows_isClean (shows_descendHere h _ _ _)

theorem shows_referred {frame : Frame} {found : Search Resolved} (h : found.Shows p) :
    (referred frame found).Shows p :=
  Run.shows_bind (Run.shows_mapError h) fun _ =>
    Run.shows_bind (shows_inside _ _ _) fun _ => Run.shows_pure _

theorem shows_referredAll (h : e.Shows p) (d : Dialect) (frame : Frame) (schema : Members) :
    ∀ found ∈ e.referredAll d frame schema, found.Shows p := by
  have hk (ref : String) : ∀ found ∈ [referred frame (frame.resolver.lookup e.fetch ref)],
      found.Shows p := by
    intro found hm
    rw [List.mem_singleton.mp hm]
    exact shows_referred (Resolver.shows_lookup h.fetch _ _)
  unfold referredAll
  intro found hm
  dsimp only at hm
  rcases List.mem_append.mp hm with hm | hm
  · split at hm
    · exact hk _ found hm
    · cases hm
  · split at hm
    · split at hm
      · rw [List.mem_singleton.mp hm]
        exact shows_referred (Resolver.shows_lookupRecursive h.fetch _)
      · cases hm
    · split at hm
      · exact hk _ found hm
      · cases hm

theorem shows_conditional (h : e.Shows p) (frame : Frame) (schema : Members) (target : Value) :
    (e.conditional frame schema target).Shows p := by
  unfold conditional
  split
  · exact Run.shows_pure _
  · exact Run.shows_bind (shows_probe h _ _ _) fun _ =>
      Run.shows_ite (Run.shows_pure _) (Run.shows_pure _)

theorem shows_matchedNames (schema : Members) (names : List String) :
    (matchedNames schema names).Shows p := by
  unfold matchedNames
  split
  · exact shows_collect (fun name => shows_collect (fun pattern =>
      Run.shows_bind (Run.shows_ofExcept _) fun _ => Run.shows_pure _) _) _
  · exact Run.shows_pure _

theorem shows_directNames (h : e.Shows p) (d : Dialect) (frame : Frame) (schema members : Members) :
    (e.directNames d frame schema members).Shows p := by
  refine Run.shows_ite (Run.shows_pure _) ?_
  refine Run.shows_bind (shows_collect (fun keyword => ?_) _) fun _ => Run.shows_pure _
  split
  · exact Run.shows_bind (shows_filterSearch (fun m => shows_validBelow h _ _ _) _) fun _ =>
      Run.shows_pure _
  · exact Run.shows_pure _

theorem shows_evaluatedNames (h : e.Shows p) (d : Dialect) (fuel : Nat) :
    ∀ frame schema members, (e.evaluatedNames d fuel frame schema members).Shows p := by
  induction fuel with
  | zero =>
    intro frame schema members
    exact Run.shows_fail _
  | succ fuel ih =>
    intro frame schema members
    unfold evaluatedNames
    split
    · cases ‹_ + 1 = 0›
    · next schema heq =>
      cases heq
      refine Run.shows_bind (shows_collect_mem fun found hm => ?_) fun referred => ?_
      · exact Run.shows_bind (shows_referredAll h _ _ _ found hm) fun _ => ih _ _ _
      refine Run.shows_bind (shows_directNames h _ _ _ _) fun direct => ?_
      refine Run.shows_bind (shows_matchedNames _ _) fun matched => ?_
      refine Run.shows_bind (shows_collect (fun sub => ih _ _ _) _) fun dependent => ?_
      refine Run.shows_bind (shows_collect (fun sub => ?_) _) fun alternative => ?_
      · exact Run.shows_bind (shows_validBelow h _ _ _) fun _ =>
          Run.shows_ite (ih _ _ _) (Run.shows_pure _)
      refine Run.shows_bind (shows_conditional h _ _ _) fun conditional => ?_
      exact Run.shows_bind (shows_collect (fun sub => ih _ _ _) _) fun _ => Run.shows_pure _
    · exact Run.shows_pure _

theorem shows_evaluatedItems (h : e.Shows p) (d : Dialect) (fuel : Nat) :
    ∀ frame schema items, (e.evaluatedItems d fuel frame schema items).Shows p := by
  induction fuel with
  | zero =>
    intro frame schema items
    exact Run.shows_fail _
  | succ fuel ih =>
    intro frame schema items
    unfold evaluatedItems
    split
    · cases ‹_ + 1 = 0›
    · next schema heq =>
      cases heq
      refine Run.shows_ite (Run.shows_pure _) ?_
      refine Run.shows_bind (shows_collect_mem fun found hm => ?_) fun referred => ?_
      · exact Run.shows_bind (shows_referredAll h _ _ _ found hm) fun _ => ih _ _ _
      refine Run.shows_bind (Run.shows_ofExcept _) fun direct => ?_
      split
      · exact Run.shows_pure _
      refine Run.shows_bind (shows_conditional h _ _ _) fun conditional => ?_
      refine Run.shows_bind (shows_collect (fun sub => ih _ _ _) _) fun chosen => ?_
      refine Run.shows_bind (shows_collect (fun keyword => ?_) _) fun held => ?_
      · split
        · exact Run.shows_bind (shows_filterSearch (fun m => shows_probe h _ _ _) _) fun _ =>
            Run.shows_pure _
        · exact Run.shows_pure _
      refine Run.shows_bind (shows_collect (fun sub => ?_) _) fun alternative => Run.shows_pure _
      exact Run.shows_bind (shows_validBelow h _ _ _) fun _ =>
        Run.shows_ite (ih _ _ _) (Run.shows_pure _)
    · exact Run.shows_pure _

/-! ### Rules -/

theorem shows_applyFrom (h : e.Shows p) (site : Site) (schema : Value) (start : Nat)
    (items : List Value) : (e.applyFrom site schema start items).Shows p :=
  Trace.shows_each (fun _ => shows_descend h _ _ _ _ _) _

theorem shows_applyPairwise (h : e.Shows p) (site : Site) (schemas items : List Value) :
    (e.applyPairwise site schemas items).Shows p :=
  Trace.shows_each (fun _ => shows_descend h _ _ _ _ _) _

theorem shows_applyPrefixItems (h : e.Shows p) (site : Site) (v : Value) :
    (e.applyPrefixItems site v).Shows p := by
  unfold applyPrefixItems
  split
  · exact shows_applyPairwise h _ _ _
  · exact Trace.shows_done

theorem shows_applyItems (h : e.Shows p) (site : Site) (v : Value) :
    (e.applyItems site v).Shows p := by
  unfold applyItems
  split
  · dsimp only
    split
    · exact Trace.shows_done
    · exact Trace.shows_say _
    · exact shows_applyFrom h _ _ _ _
  · exact Trace.shows_done

theorem shows_applyItemsDraft4 (h : e.Shows p) (site : Site) (v : Value) :
    (e.applyItemsDraft4 site v).Shows p := by
  unfold applyItemsDraft4
  split
  · split
    · exact shows_applyFrom h _ _ _ _
    · exact shows_applyPairwise h _ _ _
  · exact Trace.shows_done

theorem shows_applyItemsDraft2019 (h : e.Shows p) (site : Site) (v : Value) :
    (e.applyItemsDraft2019 site v).Shows p := by
  unfold applyItemsDraft2019
  split
  · split
    · exact shows_applyPairwise h _ _ _
    · exact shows_applyFrom h _ _ _ _
  · exact Trace.shows_done

theorem shows_applyAdditionalItems (h : e.Shows p) (site : Site) (v : Value) :
    (e.applyAdditionalItems site v).Shows p := by
  unfold applyAdditionalItems
  split
  · exact Trace.shows_done
  · exact Trace.shows_done
  · split
    · exact shows_applyFrom h _ _ _ _
    · exact Trace.shows_sayIf _ _
  · exact Trace.shows_stop _
  · exact Trace.shows_done

theorem shows_countValid (h : e.Shows p) (frame : Frame) (schema : Value) (limit : Number)
    (items : List Value) : ∀ count, (e.countValid frame schema limit count items).Shows p := by
  induction items with
  | nil => exact fun count => Run.shows_pure count
  | cons item items ih =>
    intro count
    refine Run.shows_bind (shows_probe h _ _ _) fun valid => ?_
    exact Run.shows_ite (Run.shows_ite (Run.shows_pure _) (ih _)) (ih _)

theorem shows_applyContains (h : e.Shows p) (site : Site) (v : Value) :
    (e.applyContains site v).Shows p := by
  unfold applyContains
  split
  · dsimp only
    split
    · refine Trace.shows_after (shows_countValid h _ _ _ _ _) fun count => ?_
      refine Trace.shows_ite (Trace.shows_report _) (Trace.shows_ite ?_ Trace.shows_done)
      exact Trace.shows_ite (Trace.shows_say _) (Trace.shows_report _)
    · exact Trace.shows_stop _
    · exact Trace.shows_stop _
  · exact Trace.shows_done

theorem shows_probeAny (h : e.Shows p) (frame : Frame) (schema : Value) (vs : List Value) :
    (e.probeAny frame schema vs).Shows p := by
  induction vs with
  | nil => exact Run.shows_pure _
  | cons v vs ih =>
    exact Run.shows_bind (shows_probe h _ _ _) fun _ => Run.shows_ite (Run.shows_pure _) ih

theorem shows_applyContainsDraft7 (h : e.Shows p) (site : Site) (v : Value) :
    (e.applyContainsDraft7 site v).Shows p := by
  unfold applyContainsDraft7
  split
  · exact Trace.shows_after (shows_probeAny h _ _ _) fun _ => Trace.shows_sayIf _ _
  · exact Trace.shows_done

theorem shows_applyRequired (site : Site) (v : Value) : (applyRequired site v).Shows p := by
  unfold applyRequired
  split
  · split
    · exact Trace.shows_stop _
    · exact Trace.shows_each (fun _ => Trace.shows_report _) _
  · exact Trace.shows_done

theorem shows_applyProperties (h : e.Shows p) (site : Site) (v : Value) :
    (e.applyProperties site v).Shows p := by
  unfold applyProperties
  split
  · refine Trace.shows_each (fun ⟨name, schema⟩ => ?_) _
    dsimp only
    split
    · exact shows_descend h _ _ _ _ _
    · exact Trace.shows_done
  · exact Trace.shows_done

theorem shows_applyPropertiesDraft3 (h : e.Shows p) (site : Site) (v : Value) :
    (e.applyPropertiesDraft3 site v).Shows p := by
  unfold applyPropertiesDraft3
  split
  · refine Trace.shows_each (fun ⟨name, schema⟩ => ?_) _
    dsimp only
    split
    · exact shows_descend h _ _ _ _ _
    · exact Trace.shows_ite (Trace.shows_report _) Trace.shows_done
  · exact Trace.shows_done

theorem shows_applyPatternProperties (h : e.Shows p) (site : Site) (v : Value) :
    (e.applyPatternProperties site v).Shows p := by
  unfold applyPatternProperties
  split
  · refine Trace.shows_each (fun _ => Trace.shows_each (fun ⟨name, member⟩ => ?_) _) _
    dsimp only
    split
    · exact shows_descend h _ _ _ _ _
    · exact Trace.shows_done
    · exact Trace.shows_stop _
  · exact Trace.shows_done

theorem shows_applyAdditionalProperties (h : e.Shows p) (site : Site) (v : Value) :
    (e.applyAdditionalProperties site v).Shows p := by
  unfold applyAdditionalProperties
  split
  · split
    · exact Trace.shows_stop _
    · split
      · refine Trace.shows_each (fun name => ?_) _
        split
        · exact shows_descend h _ _ _ _ _
        · exact Trace.shows_done
      · exact Trace.shows_sayIf _ _
  · exact Trace.shows_done

theorem shows_applyPropertyNames (h : e.Shows p) (site : Site) (v : Value) :
    (e.applyPropertyNames site v).Shows p := by
  unfold applyPropertyNames
  split
  · exact Trace.shows_each (fun _ => shows_descendHere h _ _ _) _
  · exact Trace.shows_done

theorem shows_applyNames (members : Members) (property : String) (names : Value) :
    (applyNames members property names).Shows p := by
  unfold applyNames
  split
  · exact Trace.shows_stop _
  · exact Trace.shows_each (fun _ => Trace.shows_say _) _

theorem shows_eachDependency {f : Members → String → Value → Trace}
    (hf : ∀ members property v, (f members property v).Shows p) (site : Site) (v : Value) :
    (eachDependency site v f).Shows p := by
  unfold eachDependency
  split
  · exact Trace.shows_each (fun _ => Trace.shows_ite (hf _ _ _) Trace.shows_done) _
  · exact Trace.shows_done

theorem shows_applyDependentSchema (h : e.Shows p) (site : Site) (property : String)
    (schema : Value) : (e.applyDependentSchema site property schema).Shows p :=
  shows_descend h _ _ _ _ _

theorem shows_applyDependentSchemas (h : e.Shows p) (site : Site) (v : Value) :
    (e.applyDependentSchemas site v).Shows p :=
  shows_eachDependency (fun _ => shows_applyDependentSchema h site) _ _

theorem shows_applyDependenciesDraft7 (h : e.Shows p) (site : Site) (v : Value) :
    (e.applyDependenciesDraft7 site v).Shows p := by
  refine shows_eachDependency (fun members property dependency => ?_) _ _
  split
  · exact shows_applyNames _ _ _
  · exact shows_applyDependentSchema h _ _ _

theorem shows_applyDependenciesDraft3 (h : e.Shows p) (site : Site) (v : Value) :
    (e.applyDependenciesDraft3 site v).Shows p := by
  refine shows_eachDependency (fun members property dependency => ?_) _ _
  split
  · exact shows_applyDependentSchema h _ _ _
  · exact shows_applyNames _ _ _
  · exact shows_applyNames _ _ _

theorem shows_applyAllOf (h : e.Shows p) (site : Site) (v : Value) :
    (e.applyAllOf site v).Shows p := Trace.shows_each (fun _ => shows_descend h _ _ _ _ _) _

theorem shows_firstValid (h : e.Shows p) (site : Site) (schemas : List Value) :
    (e.firstValid site schemas).Shows p := by
  induction schemas with
  | nil => exact Run.shows_pure _
  | cons schema schemas ih =>
    refine Run.shows_bind (Trace.shows_findings (shows_descendHere h _ _ _)) fun findings => ?_
    exact Run.shows_ite (Run.shows_pure _) ih

theorem shows_applyOneOf (h : e.Shows p) (site : Site) (v : Value) :
    (e.applyOneOf site v).Shows p := by
  refine Trace.shows_after (shows_firstValid h _ _) fun found => ?_
  split
  · exact Trace.shows_say _
  · exact Trace.shows_after (shows_filterSearch (fun _ => shows_probe h _ _ _) _) fun _ =>
      Trace.shows_sayIf _ _

theorem shows_applyIf (h : e.Shows p) (site : Site) (v : Value) : (e.applyIf site v).Shows p := by
  refine Trace.shows_after (shows_probe h _ _ _) fun valid => ?_
  dsimp only
  split
  · exact shows_descend h _ _ _ _ _
  · exact Trace.shows_done

theorem shows_applyExtends (h : e.Shows p) (site : Site) (v : Value) :
    (e.applyExtends site v).Shows p := by
  unfold applyExtends
  split
  · exact shows_descendHere h _ _ _
  · exact shows_applyAllOf h _ _

theorem shows_hasSomeTypeDraft3 (h : e.Shows p) (site : Site) (types : List Value) :
    (e.hasSomeTypeDraft3 site types).Shows p := by
  fun_induction hasSomeTypeDraft3 e site types with
  | case1 => exact Run.shows_pure _
  | case2 => exact Run.shows_pure _
  | case3 schema types ih =>
    refine Run.shows_bind (Trace.shows_findings (shows_descendHere h _ _ _)) fun findings => ?_
    exact Run.shows_ite (Run.shows_pure _) ih
  | case4 type types _ _ ih =>
    refine Run.shows_bind (Run.shows_ofExcept _) fun holds => ?_
    exact Run.shows_ite (Run.shows_pure _) ih

theorem shows_applyDisallow (h : e.Shows p) (site : Site) (v : Value) :
    (e.applyDisallow site v).Shows p :=
  Trace.shows_each (fun _ => Trace.shows_after (shows_probe h _ _ _) fun _ =>
    Trace.shows_sayIf _ _) _

theorem shows_unallowedNames (h : e.Shows p) (site : Site) (schema : Value) (members : Members) :
    (e.unallowedNames site schema members).Shows p :=
  shows_collect (fun _ => Run.shows_bind (Trace.shows_findings (shows_descendHere h _ _ _))
    fun _ => Run.shows_pure _) _

theorem shows_applyUnevaluatedProperties (h : e.Shows p) (fuel : Nat) (site : Site) (v : Value) :
    (e.applyUnevaluatedProperties fuel site v).Shows p := by
  unfold applyUnevaluatedProperties
  split
  · refine Trace.shows_after (shows_evaluatedNames h _ _ _ _ _) fun evaluated => ?_
    refine Trace.shows_after (shows_unallowedNames h _ _ _) fun names => ?_
    split
    · exact Trace.shows_done
    · split
      · exact Trace.shows_say _
      · exact Trace.shows_say _
  · exact Trace.shows_done

theorem shows_applyUnevaluatedItems (h : e.Shows p) (fuel : Nat) (site : Site) (v : Value) :
    (e.applyUnevaluatedItems fuel site v).Shows p := by
  unfold applyUnevaluatedItems
  split
  · refine Trace.shows_after (shows_evaluatedItems h _ _ _ _ _) fun evaluated => ?_
    split
    · exact Trace.shows_done
    · exact Trace.shows_say _
  · exact Trace.shows_done

theorem shows_apply (h : e.Shows p) (fuel : Nat) (site : Site) (v : Value) (rule : Rule) :
    (e.apply fuel site v rule).Shows p := by
  cases rule with
  | reference => exact shows_refer h _ _ _
  | dynamicReference => exact shows_refer h _ _ _
  | recursiveReference => exact shows_recursiveReference h _
  | oneOfValues => exact Trace.shows_ofVerdict (checkEnum v site.target)
  | constant => exact Trace.shows_ofVerdict (checkConst v site.target)
  | typeInDraft3 =>
    exact Trace.shows_after (shows_hasSomeTypeDraft3 h _ _) fun _ => Trace.shows_sayIf _ _
  | minimumDraft4 => exact Trace.shows_ite (Trace.shows_ofVerdict _) (Trace.shows_ofVerdict _)
  | maximumDraft4 => exact Trace.shows_ite (Trace.shows_ofVerdict _) (Trace.shows_ofVerdict _)
  | format => exact Trace.shows_ite (Trace.shows_ofVerdict _) Trace.shows_done
  | items => exact shows_applyItems h _ _
  | itemsDraft4 => exact shows_applyItemsDraft4 h _ _
  | itemsDraft2019 => exact shows_applyItemsDraft2019 h _ _
  | prefixItems => exact shows_applyPrefixItems h _ _
  | additionalItems => exact shows_applyAdditionalItems h _ _
  | contains => exact shows_applyContains h _ _
  | containsDraft7 => exact shows_applyContainsDraft7 h _ _
  | required => exact shows_applyRequired _ _
  | properties => exact shows_applyProperties h _ _
  | propertiesDraft3 => exact shows_applyPropertiesDraft3 h _ _
  | patternProperties => exact shows_applyPatternProperties h _ _
  | additionalProperties => exact shows_applyAdditionalProperties h _ _
  | propertyNames => exact shows_applyPropertyNames h _ _
  | dependentRequired => exact shows_eachDependency shows_applyNames _ _
  | dependentSchemas => exact shows_applyDependentSchemas h _ _
  | dependenciesDraft3 => exact shows_applyDependenciesDraft3 h _ _
  | dependenciesDraft7 => exact shows_applyDependenciesDraft7 h _ _
  | allOf => exact shows_applyAllOf h _ _
  | anyOf => exact Trace.shows_after (shows_firstValid h _ _) fun _ => Trace.shows_sayIf _ _
  | oneOf => exact shows_applyOneOf h _ _
  | not => exact Trace.shows_after (shows_probe h _ _ _) fun _ => Trace.shows_sayIf _ _
  | ifThenElse => exact shows_applyIf h _ _
  | «extends» => exact shows_applyExtends h _ _
  | disallow => exact shows_applyDisallow h _ _
  | unevaluatedItems => exact shows_applyUnevaluatedItems h _ _ v
  | unevaluatedProperties => exact shows_applyUnevaluatedProperties h _ _ _
  | _ => exact Trace.shows_ofVerdict _

end Evaluator

/-! ### The walk -/

variable {fetch : Fetch}

/-- A walk shows what its fetches show. -/
theorem shows_walk (h : ∀ url, (fetch url).Shows p) (formats : Bool) (fuel : Nat) :
    ∀ d frame schema target, (walk fetch formats fuel d frame schema target).Shows p := by
  induction fuel with
  | zero =>
    intro d frame schema target
    exact Trace.shows_stop _
  | succ fuel ih =>
    intro d frame schema target
    have he : Evaluator.Shows p ⟨fetch, formats, walk fetch formats fuel⟩ := ⟨h, ih⟩
    unfold walk
    split
    · exact Trace.shows_done
    · exact Trace.shows_report _
    · refine Trace.shows_each (fun ⟨keyword, v⟩ => ?_) _
      dsimp only
      split
      · exact Trace.shows_map (Evaluator.shows_apply he _ _ _ _)
      · exact Trace.shows_done
    · exact Trace.shows_stop _

theorem shows_evaluate (h : ∀ url, (fetch url).Shows p) (formats : Bool) (registry : Registry)
    (d : Dialect) (document target : Value) :
    (evaluate fetch formats registry d document target).Shows p := shows_walk h _ _ _ _ _ _

theorem shows_fetchNothing (url : String) : (fetchNothing url).Shows p := Run.shows_fail _

theorem shows_failOnUrl {ε : Type} (r : Except UrlFault α) :
    (failOnUrl r : Run (Failure ε) α).Shows p := by
  cases r with
  | ok a => exact Run.shows_pure a
  | error fault => exact Run.shows_fail _

theorem shows_compile (hl : ∀ level message, p (.log level message)) (uri : String)
    (document : Value) : (compile uri document).Shows p := by
  refine Run.shows_ite (Run.shows_fail _) ?_
  refine Run.shows_bind (shows_failOnUrl _) fun dialect => ?_
  refine Run.shows_bind (Run.shows_mapError (Trace.shows_first? ?_)) fun found => ?_
  · exact shows_evaluate shows_fetchNothing _ _ _ _ _
  · split
    · exact Run.shows_fail _
    · refine Run.shows_bind (shows_failOnUrl _) fun registry => ?_
      exact Run.shows_bind (Run.shows_emit (hl _ _)) fun _ => Run.shows_pure _

theorem compile_silent (uri : String) (document : Value) :
    (compile uri document).Shows Event.Silent := shows_compile (fun _ _ => rfl) uri document

theorem Compiled.shows_validate (h : ∀ url, (fetch url).Shows p) (schema : Compiled) (v : Value) :
    (schema.validate fetch v).Shows p := by
  refine Run.shows_bind (Run.shows_mapError (Trace.shows_findings ?_)) fun findings => ?_
  · exact shows_evaluate h _ _ _ _ _
  · split
    · exact Run.shows_pure _
    · exact Run.shows_fail _

theorem fetchWith_silent (world : World) (loader : Option Loader) (url : String) :
    (fetchWith world loader url).Shows Event.Silent := by
  cases loader with
  | none => exact Run.shows_fail _
  | some loader => exact load_silent world loader url

end Preflight.Schema

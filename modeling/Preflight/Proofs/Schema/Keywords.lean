import Preflight.Proofs.Schema.Clean
import Preflight.Proofs.Text.Percent

/-!
# What keywords of draft 2020-12 ask for

A value passes a schema when the walk through the schema is clean. `Walker.passes_object` takes the
schema apart into its keywords, and each keyword says what it asks of the value: subschemas without
an identifier or a dialect of their own (`Plain`) are passed in the frame of the schema around them,
and a reference to a definition of the document is passed where the definition is (`obeys_ref`).
-/

namespace Preflight.Schema

open Json

/-- A schema without an identifier and a dialect of its own. -/
def Plain : Value → Prop
  | .object members => Dialect.text? (.object members) "$id" = none ∧
      Dialect.text? (.object members) "$schema" = none
  | _ => False

instance Plain.decidable : (schema : Value) → Decidable (Plain schema)
  | .object _ => inferInstanceAs (Decidable (_ ∧ _))
  | .null | .bool _ | .int _ | .float _ | .string _ | .array _ => isFalse id

theorem Plain.exists_members {schema : Value} (h : Plain schema) :
    ∃ members, schema = .object members := by
  cases schema with
  | object members => exact ⟨members, rfl⟩
  | _ => exact absurd h id

theorem Plain.id_eq_none {schema : Value} (h : Plain schema) :
    Dialect.text? schema "$id" = none := by
  obtain ⟨members, rfl⟩ := h.exists_members
  exact h.1

theorem id?_eq_none {schema : Value} (h : Dialect.text? schema "$id" = none) :
    (Resource.mk .draft2020 schema).id? = none := by
  unfold Resource.id? Dialect.identifier? Dialect.idKeyword
  rw [h]

theorem Plain.evaluating {schema : Value} (h : Plain schema) (d : Dialect) :
    Dialect.evaluating d schema = .ok d := by
  obtain ⟨members, rfl⟩ := h.exists_members
  have hs := h.2
  unfold Dialect.text? at hs
  unfold Dialect.evaluating
  split
  · next name heq =>
    rw [heq] at hs
    cases hs
  · rfl

def isString : Value → Bool
  | .string _ => true
  | _ => false

/-- What an evaluation in draft 2020-12 is done with at every place of a document. -/
structure Walker where
  fetch : Fetch
  formats : Bool
  resolver : Resolver

namespace Walker

variable {w : Walker} {depth : Nat} {members : Members} {target : Value}

/-- The frame of every schema on the way. -/
def frame (w : Walker) : Frame := ⟨.draft2020, w.resolver⟩

/-- The evaluator of the keywords whose subschemas may be walked to a depth. -/
def evaluator (w : Walker) (depth : Nat) : Evaluator :=
  ⟨w.fetch, w.formats, walk w.fetch w.formats depth⟩

def Passes (w : Walker) (depth : Nat) (schema target : Value) : Prop :=
  (walk w.fetch w.formats depth .draft2020 w.frame schema target).Clean

def Obeys (w : Walker) (depth : Nat) (members : Members) (target : Value) (m : String × Value) :
    Prop :=
  ∀ rule, Rule.ofKeyword? .draft2020 m.1 = some rule →
    ((w.evaluator depth).apply depth ⟨w.frame, members, target⟩ m.2 rule).Clean

theorem passes_object :
    w.Passes (depth + 1) (.object members) target ↔
      ∀ m ∈ members, w.Obeys depth members target m := by
  unfold Passes walk countingKeywords
  rw [Trace.clean_each]
  refine forall₂_congr fun m _ => ?_
  obtain ⟨keyword, v⟩ := m
  unfold Obeys
  unfold frame
  dsimp only
  cases Rule.ofKeyword? .draft2020 keyword with
  | none =>
    refine ⟨fun _ rule h => ?_, fun _ => Trace.clean_done⟩
    cases h
  | some rule =>
    dsimp only
    rw [Trace.clean_map]
    refine ⟨fun h rule' hr => ?_, fun h => h rule rfl⟩
    cases hr
    exact h

theorem obeys_unknown {keyword : String} {v : Value}
    (hk : Rule.ofKeyword? .draft2020 keyword = none) :
    w.Obeys depth members target (keyword, v) := by
  intro rule hr
  rw [hk] at hr
  cases hr

theorem obeys_iff {keyword : String} {v : Value} (rule : Rule)
    (hk : Rule.ofKeyword? .draft2020 keyword = some rule) :
    w.Obeys depth members target (keyword, v) ↔
      ((w.evaluator depth).apply depth ⟨w.frame, members, target⟩ v rule).Clean := by
  refine ⟨fun h => h rule hk, fun h rule' hr => ?_⟩
  rw [hk] at hr
  cases hr
  exact h

/-! ### Subschemas -/

theorem inside_plain (w : Walker) {schema : Value} (h : Plain schema) :
    (Evaluator.inside w.frame w.resolver schema).result = .ok w.frame := by
  unfold Evaluator.inside
  rw [h.evaluating]
  rfl

theorem enter_plain (w : Walker) {schema : Value} (h : Plain schema) :
    (w.frame.resolver.enter ⟨w.frame.dialect, schema⟩).result = .ok w.resolver := by
  unfold frame Resolver.enter
  rw [id?_eq_none h.id_eq_none]
  rfl

theorem clean_descendWith {schema : Value} (h : Plain schema) (v : Value) (i j : Option Step) :
    ((w.evaluator depth).descendWith w.frame w.resolver schema v i j).Clean ↔
      w.Passes depth schema v := by
  have hi := w.inside_plain h
  obtain ⟨members, rfl⟩ := h.exists_members
  show Trace.Clean (.after _ _) ↔ _
  rw [Trace.clean_after_ok _ hi, Trace.clean_map]
  rfl

theorem clean_descend {schema : Value} (h : Plain schema) (v : Value) (i j : Option Step) :
    ((w.evaluator depth).descend w.frame schema v i j).Clean ↔ w.Passes depth schema v := by
  have he := w.enter_plain h
  rw [← clean_descendWith h v i j]
  obtain ⟨members, rfl⟩ := h.exists_members
  show Trace.Clean (.after _ _) ↔ _
  rw [Trace.clean_after_ok _ he]

theorem obeys_properties {table : Members} (hp : ∀ p ∈ table, Plain p.2) :
    w.Obeys depth members target ("properties", .object table) ↔
      ∀ node, target = .object node → ∀ p ∈ table, ∀ v, Members.get? node p.1 = some v →
        w.Passes depth p.2 v := by
  rw [obeys_iff .properties (by rfl)]
  show ((w.evaluator depth).applyProperties _ _).Clean ↔ _
  unfold Evaluator.applyProperties
  cases target with
  | object node =>
    show (Trace.each _ table).Clean ↔ _
    rw [Trace.clean_each]
    constructor
    · rintro h node' hn ⟨name, schema⟩ hm v hv
      cases hn
      have hc := h ⟨name, schema⟩ hm
      simp only [hv] at hc
      exact (clean_descend (hp _ hm) v _ _).mp hc
    · rintro h ⟨name, schema⟩ hm
      cases hv : Members.get? node name with
      | none => simpa only [hv] using Trace.clean_done
      | some v =>
        simp only [hv]
        exact (clean_descend (hp _ hm) v _ _).mpr (h node rfl _ hm v hv)
  | _ =>
    refine ⟨fun _ node hn => ?_, fun _ => Trace.clean_done⟩
    cases hn

/-- The items of an array, where no keyword takes the first ones out. -/
theorem obeys_items {schema : Value} (hp : Plain schema)
    (hm : Members.get? members "prefixItems" = none) :
    w.Obeys depth members target ("items", schema) ↔
      ∀ items, target = .array items → ∀ v ∈ items, w.Passes depth schema v := by
  rw [obeys_iff .items (by rfl)]
  show ((w.evaluator depth).applyItems _ _).Clean ↔ _
  unfold Evaluator.applyItems
  cases target with
  | array items =>
    obtain ⟨table, rfl⟩ := hp.exists_members
    simp only [hm]
    cases items with
    | nil =>
      refine ⟨fun _ items hi v hv => ?_, fun _ => Trace.clean_done⟩
      cases hi
      exact absurd hv List.not_mem_nil
    | cons first rest =>
      show ((w.evaluator depth).applyFrom _ _ 0 (first :: rest)).Clean ↔ _
      unfold Evaluator.applyFrom
      rw [Trace.clean_each, List.drop_zero]
      constructor
      · intro h items hi v hv
        cases hi
        obtain ⟨i, hi, rfl⟩ := List.getElem_of_mem hv
        have := h ((first :: rest)[i], i) (List.mem_zipIdx_iff_getElem?.mpr (by simp))
        exact (clean_descend hp _ _ _).mp this
      · intro h p hm
        have hv : p.1 ∈ first :: rest := List.fst_mem_of_mem_zipIdx hm
        exact (clean_descend hp _ _ _).mpr (h _ rfl p.1 hv)
  | _ =>
    refine ⟨fun _ items hi => ?_, fun _ => Trace.clean_done⟩
    cases hi

/-! ### Assertions -/

theorem obeys_type {type : String} :
    w.Obeys depth members target ("type", .string type) ↔
      isOfType .draft2020 type target = some true := by
  rw [obeys_iff .typeIn (by rfl)]
  show Trace.Clean (.ofVerdict (checkType .draft2020 (.string type) target)) ↔ _
  rw [Trace.clean_ofVerdict]
  unfold checkType
  simp only [asList, hasSomeType, hasType]
  cases isOfType .draft2020 type target with
  | none => simp [bind, Except.bind]
  | some holds => cases holds <;> simp [bind, Except.bind, objection, pure, Except.pure]

theorem obeys_enum {choices : List Value} :
    w.Obeys depth members target ("enum", .array choices) ↔
      ∃ choice ∈ choices, choice.schemaEq target = true := by
  rw [obeys_iff .oneOfValues (by rfl)]
  show Trace.Clean (.ofVerdict (checkEnum (.array choices) target)) ↔ _
  rw [Trace.clean_ofVerdict, checkEnum, objection_eq_none, Bool.not_eq_false', asList,
    List.any_eq_true]

theorem obeys_const {expected : Value} :
    w.Obeys depth members target ("const", expected) ↔ target.schemaEq expected = true := by
  rw [obeys_iff .constant (by rfl)]
  show Trace.Clean (.ofVerdict (checkConst expected target)) ↔ _
  rw [Trace.clean_ofVerdict, checkConst, objection_eq_none, Bool.not_eq_false']

theorem obeys_bound {fails : Number → Number → Bool} {relation : String} {bound : Int} :
    Trace.Clean (.ofVerdict (checkBound fails relation (.int bound) target)) ↔
      ∀ n, number? target = some n → fails n (.int bound) = false := by
  rw [Trace.clean_ofVerdict]
  unfold checkBound
  cases number? target with
  | none => simp
  | some n =>
    show objection _ _ = _ ↔ _
    rw [objection_eq_none]
    refine ⟨fun h n' hn => ?_, fun h => h n rfl⟩
    cases hn
    exact h

theorem obeys_minimum {bound : Int} :
    w.Obeys depth members target ("minimum", .int bound) ↔
      ∀ n, number? target = some n → n.less (.int bound) = false := by
  rw [obeys_iff .minimum (by rfl)]
  exact obeys_bound

theorem obeys_maximum {bound : Int} :
    w.Obeys depth members target ("maximum", .int bound) ↔
      ∀ n, number? target = some n → (Number.int bound).less n = false := by
  rw [obeys_iff .maximum (by rfl)]
  exact obeys_bound

theorem obeys_minItems_one :
    w.Obeys depth members target ("minItems", .int 1) ↔ target ≠ .array [] := by
  rw [obeys_iff .minItems (by rfl)]
  show Trace.Clean (.ofVerdict (checkMinItems (.int 1) target)) ↔ _
  rw [Trace.clean_ofVerdict]
  cases target with
  | array items =>
    show objection _ _ = _ ↔ _
    rw [objection_eq_none]
    cases items with
    | nil => simp [Number.less, Number.compare?, compare, compareOfLessAndEq]
    | cons v items =>
      have hl : ¬ (((v :: items).length : Nat) : Int) < 1 := by
        rw [List.length_cons]
        omega
      have hc : compare (((v :: items).length : Nat) : Int) 1 ≠ .lt := by
        rw [Ne, Int.compare_eq_lt]
        exact hl
      refine ⟨fun _ h => ?_, fun _ => ?_⟩
      · cases h
      · simpa [Number.less, Number.compare?] using hc
  | _ => simp [checkMinItems]

theorem obeys_pattern {pattern : String} :
    w.Obeys depth members target ("pattern", .string pattern) ↔
      ∀ s, target = .string s → patternFound pattern s = .ok true := by
  rw [obeys_iff .pattern (by rfl)]
  show Trace.Clean (.ofVerdict (checkPattern (.string pattern) target)) ↔ _
  rw [Trace.clean_ofVerdict]
  cases target with
  | string s =>
    show (patternFound pattern s >>= _) = _ ↔ _
    cases hf : patternFound pattern s with
    | error mishap => simp [bind, Except.bind, hf]
    | ok found => cases found <;> simp [bind, Except.bind, objection, hf]
  | _ => simp [checkPattern]

theorem obeys_required (names : List String) :
    w.Obeys depth members target ("required", .array (names.map .string)) ↔
      ∀ node, target = .object node → ∀ name ∈ names, Members.has node name = true := by
  rw [obeys_iff .required (by rfl)]
  show (Evaluator.applyRequired ⟨w.frame, members, target⟩ (.array (names.map .string))).Clean ↔ _
  unfold Evaluator.applyRequired
  cases target with
  | object node =>
    show (Trace.each _ ((names.map Value.string).filter (lacks node))).Clean ↔ _
    rw [Trace.clean_each]
    constructor
    · intro h node' hn name hm
      cases hn
      cases hh : Members.has node name with
      | true => rfl
      | false =>
        have hl : Value.string name ∈ (names.map Value.string).filter (lacks node) := by
          rw [List.mem_filter]
          exact ⟨List.mem_map_of_mem hm, by rw [lacks, hh]; rfl⟩
        exact absurd (h _ hl) (Trace.not_clean_report _)
    · intro h v hv
      rw [List.mem_filter, List.mem_map] at hv
      obtain ⟨⟨name, hm, rfl⟩, hl⟩ := hv
      have hh := h node rfl name hm
      rw [lacks, hh] at hl
      exact absurd hl Bool.false_ne_true
  | _ =>
    refine ⟨fun _ node hn => ?_, fun _ => Trace.clean_done⟩
    cases hn

/-! ### Types -/

theorem isOfType_string {v : Value} :
    isOfType .draft2020 "string" v = some true ↔ ∃ s, v = .string s := by
  cases v <;> simp [isOfType]

theorem isOfType_boolean {v : Value} :
    isOfType .draft2020 "boolean" v = some true ↔ ∃ b, v = .bool b := by
  cases v <;> simp [isOfType]

theorem isOfType_integer {v : Value} :
    isOfType .draft2020 "integer" v = some true ↔
      (∃ n, v = .int n) ∨ ∃ x, v = .float x ∧ x.isIntegral = true := by
  cases v <;> simp [isOfType]

theorem isOfType_array {v : Value} :
    isOfType .draft2020 "array" v = some true ↔ ∃ items, v = .array items := by
  cases v <;> simp [isOfType]

theorem isOfType_object {v : Value} :
    isOfType .draft2020 "object" v = some true ↔ ∃ members, v = .object members := by
  cases v <;> simp [isOfType]

/-! ### Lists and records -/

/-- A schema of arrays whose items pass a schema. -/
theorem passes_list {schema : Value} (hp : Plain schema) :
    w.Passes (depth + 1) (.object [("type", .string "array"), ("items", schema)]) target ↔
      ∃ items, target = .array items ∧ ∀ v ∈ items, w.Passes depth schema v := by
  rw [passes_object, List.forall_mem_cons, List.forall_mem_singleton, obeys_type, isOfType_array,
    obeys_items hp (by rfl)]
  constructor
  · rintro ⟨⟨items, rfl⟩, h⟩
    exact ⟨items, rfl, h items rfl⟩
  · rintro ⟨items, rfl, h⟩
    refine ⟨⟨items, rfl⟩, fun items' hi => ?_⟩
    cases hi
    exact h


/-- A schema of objects with some members required and some described; keywords without a rule may
stand before and behind. -/
theorem passes_record (before after : Members) (names : List String) {table : Members}
    (hb : ∀ m ∈ before ++ after, Rule.ofKeyword? .draft2020 m.1 = none)
    (hp : ∀ p ∈ table, Plain p.2) :
    w.Passes (depth + 1) (.object (before ++ [("type", .string "object"),
        ("required", .array (names.map .string)), ("properties", .object table)] ++ after)) target ↔
      ∃ node, target = .object node ∧ (∀ name ∈ names, Members.has node name = true) ∧
        ∀ p ∈ table, ∀ v, Members.get? node p.1 = some v → w.Passes depth p.2 v := by
  rw [passes_object]
  constructor
  · intro h
    have ht := obeys_type.mp (h ("type", .string "object") (by simp))
    obtain ⟨node, rfl⟩ := isOfType_object.mp ht
    have hr := (obeys_required names).mp (h ("required", .array (names.map .string)) (by simp))
    have ho := (obeys_properties hp).mp (h ("properties", .object table) (by simp))
    exact ⟨node, rfl, hr node rfl, ho node rfl⟩
  · rintro ⟨node, rfl, hr, ho⟩ ⟨keyword, v⟩ hm
    rw [List.mem_append, List.mem_append] at hm
    rcases hm with (hm | hm) | hm
    · exact obeys_unknown (hb _ (List.mem_append_left _ hm))
    · simp only [List.mem_cons, List.not_mem_nil, or_false] at hm
      rcases hm with hm | hm | hm
      · cases hm
        exact obeys_type.mpr (isOfType_object.mpr ⟨node, rfl⟩)
      · cases hm
        refine (obeys_required names).mpr fun node' hn => ?_
        cases hn
        exact hr
      · cases hm
        refine (obeys_properties hp).mpr fun node' hn => ?_
        cases hn
        exact ho
    · exact obeys_unknown (hb _ (List.mem_append_right _ hm))

/-! ### References -/

theorem obeys_ref {ref : String} {part : Value} (hp : Plain part)
    (hl : (w.resolver.lookup w.fetch ref).result = .ok ⟨part, w.resolver⟩) :
    w.Obeys depth members target ("$ref", .string ref) ↔ w.Passes depth part target := by
  rw [obeys_iff .reference (by rfl)]
  show Trace.Clean (.after (w.resolver.lookup w.fetch ref) _) ↔ _
  rw [Trace.clean_after_ok _ hl]
  exact clean_descendWith hp target none none

end Walker

namespace Resolver

variable {fetch : Fetch} {registry : Registry} {root : Resource}

theorem ofRoot_anonymous (hr : root.id? = none) :
    ofRoot registry root = ⟨registry.add "" root, "", []⟩ := by
  unfold ofRoot
  rw [hr]
  rfl

theorem retrieve_anonymous (ref : String) :
    retrieve fetch (registry.add "" root) ref "" = pure (registry.add "" root, root) := by
  have hu : Dialect.withoutHash "" = "" := by decide
  have hf : (registry.add "" root).resource? "" = some root := by
    unfold Registry.add Registry.resource?
    simp only [hu, List.lookup_cons_self]
  unfold retrieve
  rw [hf]

/-- A name that stands in a pointer as it is. -/
def IsStep (name : List Char) : Prop := ∀ c ∈ name, (c.toNat < 128 ∧ c ≠ '%') ∧ c ≠ '/' ∧ c ≠ '~'

instance (name : List Char) : Decidable (IsStep name) := List.decidableBAll _ name

theorem unescapeStep_of_isStep {name : List Char} (h : IsStep name) : unescapeStep name = name := by
  induction name with
  | nil => rfl
  | cons c name ih =>
    obtain ⟨⟨-, -, hc⟩, hs⟩ := List.forall_mem_cons.mp h
    rw [unescapeStep, ih hs]
    · exact fun _ he _ => hc he
    · exact fun _ he _ => hc he

theorem pointerSteps_definition {name : String} (h : IsStep name.toList) :
    pointerSteps ("/$defs/" ++ name) = ["$defs", name] := by
  have htail : ("/$defs/" ++ name).toList.drop 1 = "$defs".toList ++ '/' :: name.toList := by
    rw [String.toList_append]
    rfl
  have hdefs : IsStep "$defs".toList := by decide
  have hplain : ∀ c ∈ "$defs".toList ++ '/' :: name.toList, c.toNat < 128 ∧ c ≠ '%' := by
    refine List.forall_mem_append.mpr ⟨fun c hc => (hdefs c hc).1, List.forall_mem_cons.mpr ⟨?_, ?_⟩⟩
    · decide
    · exact fun c hc => (h c hc).1
  rw [pointerSteps, htail, Text.percentDecode_of_forall hplain, Text.splitString, String.toList_ofList,
    Text.split_append_cons fun hm => (hdefs _ hm).2.1 rfl, Text.split_of_notMem fun hm => (h _ hm).2.1 rfl,
    List.map_cons, List.map_singleton, String.ofList_toList, String.ofList_toList]

theorem follow_cons {r : Resource} {contents : Value} {step : String} {part : Value}
    (hs : String.ofList (unescapeStep step.toList) = step) (hg : contents.get? step = some part)
    (hp : (Resource.mk r.dialect part).id? = none)
    (pointer : String) (resolver : Resolver) (walked steps : List String) :
    follow r pointer resolver walked contents (step :: steps) =
      follow r pointer resolver (walked ++ [step]) part steps := by
  cases contents with
  | object members =>
    have hg : Members.get? members step = some part := hg
    have hi : stepInto (.object members) step = pure (some part) := by
      rw [stepInto, hs, hg]
    rw [follow, hi, Run.bind_of_ok _ rfl]
    simp only [hs, hp, Option.isSome_none, Bool.and_false, Bool.false_eq_true, if_false]
    rfl
  | _ => cases hg

/-- A document that has no identifier finds its definitions and stays where it is. -/
theorem lookup_definition {document defs part : Value} {name : String}
    (hr : Dialect.text? document "$id" = none)
    (hd : document.get? "$defs" = some defs) (hi : Dialect.text? defs "$id" = none)
    (hg : defs.get? name = some part) (hp : Dialect.text? part "$id" = none)
    (hs : IsStep name.toList) :
    ((ofRoot registry ⟨.draft2020, document⟩).lookup fetch ("#/$defs/" ++ name)).result =
      .ok ⟨part, ofRoot registry ⟨.draft2020, document⟩⟩ := by
  have hn : String.ofList (unescapeStep name.toList) = name := by
    rw [unescapeStep_of_isStep hs, String.ofList_toList]
  rw [ofRoot_anonymous (id?_eq_none hr)]
  generalize hroot : (⟨.draft2020, document⟩ : Resource) = root
  have hfrag : ("#/$defs/" ++ name).toList = '#' :: ("/$defs/" ++ name).toList := by
    simp only [String.toList_append]
    rfl
  have hslash : ("/$defs/" ++ name).toList = '/' :: ("$defs/" ++ name).toList := by
    simp only [String.toList_append]
    rfl
  have ht : target ⟨registry.add "" root, "", []⟩ ("#/$defs/" ++ name) =
      pure ("", "/$defs/" ++ name) := by
    unfold target
    simp only [hfrag, String.ofList_toList]
  have hm : moveTo ⟨registry.add "" root, "", []⟩ (registry.add "" root) "" =
      ⟨registry.add "" root, "", []⟩ := rfl
  have hf : follow root ("/$defs/" ++ name) ⟨registry.add "" root, "", []⟩ [] root.contents
      ["$defs", name] = pure ⟨part, ⟨registry.add "" root, "", []⟩⟩ := by
    subst hroot
    rw [follow_cons (by decide +kernel) hd (id?_eq_none hi),
      follow_cons hn hg (id?_eq_none hp)]
    rfl
  unfold lookup
  rw [ht, Run.bind_of_ok _ rfl]
  simp only [retrieve_anonymous]
  rw [Run.bind_of_ok _ rfl]
  simp only [hslash, pointerSteps_definition hs]
  rw [hm, hf]
  rfl

end Resolver

end Preflight.Schema

import Preflight.Proofs.Schema.Admitting

/-!
# Simple schemas

Schemas whose keywords are some of the most usual ones, in their usual form, at every depth. The
meta-schema of draft 2020-12 allows them (`allowed_of_isSimpleSchema`).
-/

namespace Preflight.Schema

open Gateway Json

namespace MetaSchema

open Walker

variable {registry : Registry} {x : Vocabulary} {n depth : Nat} {members : Members} {v : Value}
  {keyword : String}

/-! ### Keywords in their usual form -/

def simpleTypes : List String :=
  ["array", "boolean", "integer", "null", "number", "object", "string"]

/-- Whether the value of a keyword without subschemas has its usual form. -/
def isSimpleKeyword : String → Value → Bool
  | "type", .string type => simpleTypes.contains type
  | "$ref", .string _ | "$schema", .string _ | "title", .string _ => true
  | "const", _ => true
  | "enum", .array _ => true
  | "minimum", .int _ | "maximum", .int _ => true
  | "minItems", .int k => 0 ≤ k
  | "required", .array names => names.all isString && distinct names
  | "pattern", .string pattern => (compilePattern pattern).toOption.isSome
  | _, _ => false

theorem mem_vocabularies_of_asked {s : Value} (hs : (x, s) ∈ asked keyword) : x ∈ vocabularies := by
  obtain ⟨y, hy, hm⟩ := List.mem_flatMap.mp hs
  obtain ⟨p, -, he⟩ := List.mem_map.mp hm
  cases he
  exact hy

theorem admits_of_asked {y : Vocabulary} {asking s : Value} (hs : (x, s) ∈ asked keyword)
    (h : y ∈ vocabularies → (walkerIn registry y n).Admits depth asking v)
    (ha : asked keyword = [(y, asking)]) : (walkerIn registry x n).Admits depth s v := by
  have hx := mem_vocabularies_of_asked hs
  rw [ha, List.mem_singleton] at hs
  cases hs
  exact h hx

section Shapes

variable {w : Walker} {value : Value}

theorem admits_single (hp : Plain (.object [(keyword, value)]))
    (h : w.Obeys depth [(keyword, value)] v (keyword, value)) :
    w.Admits (depth + 1) (.object [(keyword, value)]) v :=
  .inr ⟨hp, passes_object.mpr (List.forall_mem_singleton.mpr h)⟩

theorem passes_pair {m m' : String × Value} (h : w.Obeys depth [m, m'] v m)
    (h' : w.Obeys depth [m, m'] v m') : w.Passes (depth + 1) (.object [m, m']) v :=
  passes_object.mpr (List.forall_mem_cons.mpr ⟨h, List.forall_mem_singleton.mpr h'⟩)

theorem passes_text {format : String} {s : String} (h : format ≠ "regex") :
    w.Passes (depth + 1) (.object [("type", .string "string"), ("format", .string format)])
      (.string s) :=
  passes_pair (obeys_type.mpr rfl) (obeys_format_of_ne h)

theorem admits_text {s : String} :
    w.Admits (depth + 1) (.object [("type", .string "string")]) (.string s) :=
  admits_single ⟨rfl, rfl⟩ (obeys_type.mpr rfl)

theorem admits_array {items : List Value} :
    w.Admits (depth + 1) (.object [("type", .string "array"), ("items", .bool true)])
      (.array items) :=
  .inr ⟨⟨rfl, rfl⟩, passes_pair (obeys_type.mpr rfl)
    (obeys_items_of (by rfl) nofun fun _ _ => .inl rfl)⟩

theorem admits_pattern {s : String} (h : (compilePattern s).toOption.isSome = true) :
    w.Admits (depth + 1) (.object [("type", .string "string"), ("format", .string "regex")])
      (.string s) := by
  obtain ⟨regex, hr⟩ := exists_ok_of_isSome h
  exact .inr ⟨⟨rfl, rfl⟩, passes_pair (obeys_type.mpr rfl) (obeys_format_regex hr)⟩

theorem admits_number {k : Int} :
    w.Admits (depth + 1) (.object [("type", .string "number")]) (.int k) :=
  admits_single ⟨rfl, rfl⟩ (obeys_type.mpr rfl)

end Shapes

/-! ### Definitions -/

theorem defines_simpleTypes :
    validation.Defines "simpleTypes" [("enum", .array (simpleTypes.map .string))] :=
  .of_chars rfl (by decide) ⟨_, rfl, rfl, by rfl⟩ ⟨rfl, rfl⟩

theorem defines_uriReferenceString : core.Defines "uriReferenceString"
    [("type", .string "string"), ("format", .string "uri-reference")] :=
  .of_chars rfl (by decide) ⟨_, rfl, rfl, by rfl⟩ ⟨rfl, rfl⟩

theorem defines_uriString :
    core.Defines "uriString" [("type", .string "string"), ("format", .string "uri")] :=
  .of_chars rfl (by decide) ⟨_, rfl, rfl, by rfl⟩ ⟨rfl, rfl⟩

theorem defines_nonNegativeIntegerDefault0 : validation.Defines "nonNegativeIntegerDefault0"
    [("$ref", .string "#/$defs/nonNegativeInteger"), ("default", .int 0)] :=
  .of_chars rfl (by decide) ⟨_, rfl, rfl, by rfl⟩ ⟨rfl, rfl⟩

theorem defines_nonNegativeInteger : validation.Defines "nonNegativeInteger"
    [("type", .string "integer"), ("minimum", .int 0)] :=
  .of_chars rfl (by decide) ⟨_, rfl, rfl, by rfl⟩ ⟨rfl, rfl⟩

theorem defines_stringArray : validation.Defines "stringArray"
    [("type", .string "array"), ("items", .object [("type", .string "string")]),
      ("uniqueItems", .bool true), ("default", .array [])] :=
  .of_chars rfl (by decide) ⟨_, rfl, rfl, by rfl⟩ ⟨rfl, rfl⟩

section Places

variable (h : KnowsVocabularies registry)

include h

theorem obeys_part {name : String} {part : Members} (hp : x.Defines name part)
    (hx : x ∈ vocabularies) (hv : (walkerIn registry x n).Passes depth (.object part) v)
    (members : Members) :
    (walkerIn registry x n).Obeys depth members v ("$ref", .string ("#/$defs/" ++ name)) :=
  (obeys_ref hp.plain (lookup_part h hx n hp)).mpr hv

theorem admits_part {name : String} {part : Members} (hp : x.Defines name part)
    (hx : x ∈ vocabularies) (hv : (walkerIn registry x n).Passes depth (.object part) v) :
    (walkerIn registry x n).Admits (depth + 1)
      (.object [("$ref", .string ("#/$defs/" ++ name))]) v :=
  admits_single ⟨rfl, rfl⟩ (obeys_part h hp hx hv _)

theorem admits_meta (hx : x ∈ vocabularies)
    (hv : (walkerAtRoot registry (n + 1)).Passes depth Draft2020.root v) :
    (walkerIn registry x n).Admits (depth + 1) (.object [("$dynamicRef", .string "#meta")]) v := by
  refine admits_single ⟨rfl, rfl⟩ ((obeys_iff .dynamicReference (by rfl)).mpr ?_)
  exact clean_refer_of_lookup (lookup_meta h hx n) ⟨_, rfl⟩ (evaluating_of_root rfl _) hv

theorem admits_type (hx : validation ∈ vocabularies) {type : String} (ht : type ∈ simpleTypes)
    (rest : List Value) :
    (walkerIn registry validation n).Admits (depth + 3)
      (.object [("anyOf", .array (.object [("$ref", .string "#/$defs/simpleTypes")] :: rest))])
      (.string type) := by
  refine admits_single ⟨rfl, rfl⟩ (obeys_anyOf_of (admits_part h defines_simpleTypes hx ?_))
  refine passes_object.mpr (List.forall_mem_singleton.mpr (obeys_enum.mpr ?_))
  exact ⟨_, List.mem_map_of_mem ht, beq_self_eq_true type⟩

theorem admits_uriReference (hx : core ∈ vocabularies) (s : String) :
    (walkerIn registry core n).Admits (depth + 2)
      (.object [("$ref", .string "#/$defs/uriReferenceString")]) (.string s) :=
  admits_part h defines_uriReferenceString hx (passes_text (by decide))

theorem admits_uri (hx : core ∈ vocabularies) (s : String) :
    (walkerIn registry core n).Admits (depth + 2)
      (.object [("$ref", .string "#/$defs/uriString")]) (.string s) :=
  admits_part h defines_uriString hx (passes_text (by decide))

theorem admits_size (hx : validation ∈ vocabularies) {k : Int} (hk : 0 ≤ k) :
    (walkerIn registry validation n).Admits (depth + 3)
      (.object [("$ref", .string "#/$defs/nonNegativeIntegerDefault0")]) (.int k) := by
  have hn : (walkerIn registry validation n).Passes (depth + 1)
      (.object [("type", .string "integer"), ("minimum", .int 0)]) (.int k) := by
    refine passes_pair (obeys_type.mpr rfl) (obeys_minimum.mpr fun m hm => ?_)
    cases hm
    have hc : compare k 0 ≠ .lt := fun hlt => absurd (Int.compare_eq_lt.mp hlt) (Int.not_lt.mpr hk)
    simpa [Number.less, Number.compare?] using hc
  have hr := obeys_part h defines_nonNegativeInteger hx hn
  refine admits_part h defines_nonNegativeIntegerDefault0 hx (passes_pair ?_ (obeys_unknown (by rfl)))
  exact hr _

theorem admits_names (hx : validation ∈ vocabularies) {names : List Value}
    (hs : ∀ name ∈ names, isString name = true) (hd : distinct names = true) :
    (walkerIn registry validation n).Admits (depth + 3)
      (.object [("$ref", .string "#/$defs/stringArray")]) (.array names) := by
  refine admits_part h defines_stringArray hx (passes_object.mpr ?_)
  simp only [List.forall_mem_cons, List.not_mem_nil, false_imp_iff, implies_true, and_true]
  refine ⟨obeys_type.mpr rfl, obeys_items_of (by rfl) nofun fun name hm => ?_,
    obeys_uniqueItems_of hd, obeys_unknown (by rfl)⟩
  have hname := hs name hm
  unfold isString at hname
  split at hname
  · exact admits_text
  · cases hname

end Places

/-- What the vocabularies ask of a keyword in its usual form holds. -/
theorem admits_of_isSimpleKeyword (h : KnowsVocabularies registry)
    (hk : isSimpleKeyword keyword v = true) {s : Value} (hs : (x, s) ∈ asked keyword) :
    (walkerIn registry x n).Admits (depth + 3) s v := by
  unfold isSimpleKeyword at hk
  -- each keyword of the check is asked about by one vocabulary
  split at hk
  · exact admits_of_asked hs (fun hx => admits_type h hx (List.contains_iff_mem.mp hk) _) (by rfl)
  · exact admits_of_asked hs (fun hx => admits_uriReference h hx _) (by rfl)
  · exact admits_of_asked hs (fun hx => admits_uri h hx _) (by rfl)
  · exact admits_of_asked hs (fun _ => admits_text) (y := metaData) (by rfl)
  · exact admits_of_asked hs (fun _ => .inl rfl) (y := validation) (by rfl)
  · exact admits_of_asked hs (fun _ => admits_array) (y := validation) (by rfl)
  · exact admits_of_asked hs (fun _ => admits_number) (y := validation) (by rfl)
  · exact admits_of_asked hs (fun _ => admits_number) (y := validation) (by rfl)
  · exact admits_of_asked hs (fun hx => admits_size h hx (of_decide_eq_true hk)) (by rfl)
  · rw [Bool.and_eq_true, List.all_eq_true] at hk
    exact admits_of_asked hs (fun hx => admits_names h hx hk.1 hk.2) (by rfl)
  · exact admits_of_asked hs (fun _ => admits_pattern hk) (y := validation) (by rfl)
  · cases hk

theorem ne_of_isSimpleKeyword (hk : isSimpleKeyword keyword v = true) :
    ∀ p ∈ described Draft2020.root, p.1 ≠ keyword := by
  unfold isSimpleKeyword at hk
  split at hk <;> first | decide +kernel | cases hk

/-! ### Schemas -/

mutual

/-- Whether a schema is an object of keywords in their usual form, and so are the schemas in it. -/
def isSimpleSchema : Value → Bool
  | .object members => areSimpleMembers members
  | _ => false

def areSimpleMembers : Members → Bool
  | [] => true
  | ("items", v) :: rest => isSimpleSchema v && areSimpleMembers rest
  | ("properties", .object table) :: rest => areSimpleSchemas table && areSimpleMembers rest
  | ("$defs", .object table) :: rest => areSimpleSchemas table && areSimpleMembers rest
  | (keyword, v) :: rest => isSimpleKeyword keyword v && areSimpleMembers rest

def areSimpleSchemas : Members → Bool
  | [] => true
  | (_, v) :: rest => isSimpleSchema v && areSimpleSchemas rest

end

/-- What a keyword of a simple schema holds. -/
inductive SimpleMember : String × Value → Prop
  | part {v : Value} : isSimpleSchema v = true → SimpleMember ("items", v)
  | parts {keyword : String} {table : Members} : keyword ∈ ["properties", "$defs"] →
      (∀ p ∈ table, isSimpleSchema p.2 = true) → SimpleMember (keyword, .object table)
  | plain {keyword : String} {v : Value} : isSimpleKeyword keyword v = true →
      SimpleMember (keyword, v)

theorem areSimpleSchemas_iff {table : Members} :
    areSimpleSchemas table = true ↔ ∀ p ∈ table, isSimpleSchema p.2 = true := by
  induction table with
  | nil => simp [areSimpleSchemas]
  | cons p rest ih =>
    obtain ⟨name, v⟩ := p
    rw [areSimpleSchemas, Bool.and_eq_true, ih, List.forall_mem_cons]

theorem simpleMember_of_mem (h : areSimpleMembers members = true) :
    ∀ m ∈ members, SimpleMember m := by
  induction members with
  | nil => exact List.forall_mem_nil _
  | cons m rest ih =>
    unfold areSimpleMembers at h
    split at h
    · next heq => cases heq
    · next heq =>
      cases heq
      rw [Bool.and_eq_true] at h
      exact List.forall_mem_cons.mpr ⟨.part h.1, ih h.2⟩
    · next heq =>
      cases heq
      rw [Bool.and_eq_true, areSimpleSchemas_iff] at h
      exact List.forall_mem_cons.mpr ⟨.parts (by decide) h.1, ih h.2⟩
    · next heq =>
      cases heq
      rw [Bool.and_eq_true, areSimpleSchemas_iff] at h
      exact List.forall_mem_cons.mpr ⟨.parts (by decide) h.1, ih h.2⟩
    · next heq =>
      cases heq
      rw [Bool.and_eq_true] at h
      exact List.forall_mem_cons.mpr ⟨.plain h.1, ih h.2⟩

theorem nesting_le_of_mem {m : String × Value} (hm : m ∈ members) :
    nesting m.2 ≤ nestingOfMembers members := by
  induction members with
  | nil => cases hm
  | cons m' rest ih =>
    obtain ⟨keyword, v⟩ := m'
    rw [nestingOfMembers]
    rcases List.mem_cons.mp hm with rfl | hm
    · exact Nat.le_max_left _ _
    · exact (ih hm).trans (Nat.le_max_right _ _)

theorem admits_table (h : KnowsVocabularies registry) (hx : x ∈ vocabularies) {table rest : Members}
    (hrest : rest = [] ∨ rest = [("default", .object [])])
    (ht : ∀ p ∈ table, (walkerAtRoot registry (n + 1)).Passes depth Draft2020.root p.2) :
    (walkerIn registry x n).Admits (depth + 2)
      (.object (("type", .string "object") ::
        ("additionalProperties", .object [("$dynamicRef", .string "#meta")]) :: rest))
      (.object table) := by
  have hmeta : ∀ p ∈ table, (walkerIn registry x n).Admits (depth + 1)
      (.object [("$dynamicRef", .string "#meta")]) p.2 := fun p hp => admits_meta h hx (ht p hp)
  rcases hrest with rfl | rfl
  · exact .inr ⟨⟨rfl, rfl⟩, passes_pair (obeys_type.mpr rfl)
      (obeys_additional_of (by rfl) (by rfl) hmeta)⟩
  · refine .inr ⟨⟨rfl, rfl⟩, passes_object.mpr ?_⟩
    simp only [List.forall_mem_cons, List.not_mem_nil, false_imp_iff, implies_true, and_true]
    exact ⟨obeys_type.mpr rfl, obeys_additional_of (by rfl) (by rfl) hmeta, obeys_unknown (by rfl)⟩

theorem SimpleMember.ne {m : String × Value} (h : SimpleMember m) :
    ∀ p ∈ described Draft2020.root, p.1 ≠ m.1 := by
  cases h with
  | part _ =>
    dsimp only
    decide +kernel
  | @parts keyword table hk _ =>
    rcases List.mem_pair.mp hk with rfl | rfl <;> dsimp only <;> decide +kernel
  | plain hk => exact ne_of_isSimpleKeyword hk

/-- What the vocabularies ask of a keyword of a simple schema holds if the schemas in it pass the
meta-schema. -/
theorem admits_of_simpleMember (h : KnowsVocabularies registry) {m : String × Value}
    (hm : SimpleMember m) {s : Value} (hs : (x, s) ∈ asked m.1)
    (ih : ∀ {d v}, d ≤ depth + 2 → isSimpleSchema v = true → 4 * nesting v + 2 ≤ d →
      (walkerAtRoot registry (n + 1)).Passes d Draft2020.root v)
    (hn : 4 * nesting m.2 ≤ depth) : (walkerIn registry x n).Admits (depth + 3) s m.2 := by
  cases hm with
  | part hv =>
    have hv := ih (Nat.le_refl _) hv (Nat.add_le_add_right hn 2)
    exact admits_of_asked hs (fun hx => admits_meta h hx hv) (y := applicator) (by rfl)
  | @parts keyword table hk ht =>
    rw [nesting] at hn
    have hv : ∀ p ∈ table, (walkerAtRoot registry (n + 1)).Passes (depth + 1) Draft2020.root p.2 := by
      intro p hp
      have hle := nesting_le_of_mem hp
      exact ih (by omega) (ht p hp) (by omega)
    rcases List.mem_pair.mp hk with rfl | rfl
    · exact admits_of_asked hs (fun hx => admits_table h hx (.inr rfl) hv) (y := applicator) (by rfl)
    · exact admits_of_asked hs (fun hx => admits_table h hx (.inl rfl) hv) (y := core) (by rfl)
  | plain hk => exact admits_of_isSimpleKeyword h hk hs

/-- A simple schema passes the meta-schema. -/
theorem passes_of_isSimpleSchema (h : KnowsVocabularies registry) (depth : Nat) :
    ∀ {n v}, isSimpleSchema v = true → 4 * nesting v + 2 ≤ depth →
      (walkerAtRoot registry n).Passes depth Draft2020.root v := by
  -- A schema under a keyword comes back to the meta-schema through a vocabulary and a reference, so
  -- the walk gets deeper by more than one there, and by no more than four for each nesting.
  induction depth using Nat.strong_induction_on with
  | _ depth ih =>
    intro n v hv hd
    cases v with
    | object members =>
      have hmembers := simpleMember_of_mem hv
      rw [nesting] at hd
      obtain ⟨depth, rfl⟩ : ∃ d, depth = d + 6 := ⟨depth - 6, by omega⟩
      refine passes_root h (fun m hm => (hmembers m hm).ne) fun x hx =>
        passes_vocabulary hx fun m hm s hs => ?_
      have hn := nesting_le_of_mem hm
      exact admits_of_simpleMember h (hmembers m hm) hs (fun hlt => ih _ (by omega)) (by omega)
    | _ => cases hv

end MetaSchema

theorem Trace.first?_of_clean {t : Trace} (h : t.Clean) : t.first?.result = .ok none := by
  induction t with
  | done => rfl
  | stop reason => exact absurd h (not_clean_stop reason)
  | event e next ih => exact ih () h
  | finding x next _ => exact absurd h (not_clean_finding x next)

open MetaSchema in
/-- The meta-schema allows a simple schema that is not nested too deeply. -/
theorem allowed_of_isSimpleSchema {v : Value} (h : isSimpleSchema v = true)
    (hn : 4 * nesting v + 2 ≤ maxDepth) : (firstObjection .draft2020 v).result = .ok none := by
  have hroot : Resolver.ofRoot MetaSchema.registry rootResource =
      atRoot (MetaSchema.registry.add rootUrl rootResource) 0 := ofRoot_rootResource
  refine Trace.first?_of_clean ?_
  show (walk fetchNothing true maxDepth .draft2020
    ⟨.draft2020, .ofRoot MetaSchema.registry rootResource⟩ Draft2020.root v).Clean
  rw [hroot]
  exact passes_of_isSimpleSchema (knowsVocabularies_add knowsVocabularies_registry) maxDepth h hn

end Preflight.Schema

import Preflight.Proofs.Schema.Pointer
import Preflight.Schema.Compiled

/-!
# The parts of a schema that are schemas

A schema holds others under some of its keywords: as the value of the keyword, in a list or in a table
of names (`Subschema`). Each rule stands under one keyword in every dialect (`keyword_of_rule`), so what
a rule has evaluated is a subschema. What a keyword holds as data, such as the values of an enumeration,
is none.
-/

namespace Preflight.Schema

open Json

def partKeywords : List String := ["additionalItems", "additionalProperties", "allOf", "anyOf",
  "contains", "contentSchema", "disallow", "else", "extends", "if", "items", "not", "oneOf",
  "prefixItems", "propertyNames", "then", "type", "unevaluatedItems", "unevaluatedProperties"]

/-- Keywords whose value gives schemas to names. -/
def tableKeywords : List String := ["$defs", "definitions", "dependencies", "dependentSchemas",
  "patternProperties", "properties"]

/-- What a schema with some members holds as a schema. A type that is disallowed is one by itself. -/
inductive Subschema (members : Members) : Value → Prop
  | whole {keyword : String} {v : Value} :
      keyword ∈ partKeywords → (keyword, v) ∈ members → Subschema members v
  | listed {keyword : String} {items : List Value} {v : Value} :
      keyword ∈ partKeywords → (keyword, .array items) ∈ members → v ∈ items → Subschema members v
  | named {keyword name : String} {table : Members} {v : Value} :
      keyword ∈ tableKeywords → (keyword, .object table) ∈ members → (name, v) ∈ table →
      Subschema members v
  | disallowed {v type : Value} : ("disallow", v) ∈ members → type ∈ asList v →
      Subschema members (.object [("type", .array [type])])

/-- The keyword that a rule stands under; empty for the rules that look at no schema but their own. -/
def Rule.keyword : Rule → String
  | .reference => "$ref"
  | .dynamicReference => "$dynamicRef"
  | .recursiveReference => "$recursiveRef"
  | .typeInDraft3 => "type"
  | .items | .itemsDraft4 | .itemsDraft2019 => "items"
  | .prefixItems => "prefixItems"
  | .additionalItems => "additionalItems"
  | .contains | .containsDraft7 => "contains"
  | .properties | .propertiesDraft3 => "properties"
  | .patternProperties => "patternProperties"
  | .additionalProperties => "additionalProperties"
  | .propertyNames => "propertyNames"
  | .dependentSchemas => "dependentSchemas"
  | .dependenciesDraft3 | .dependenciesDraft7 => "dependencies"
  | .allOf => "allOf"
  | .anyOf => "anyOf"
  | .oneOf => "oneOf"
  | .not => "not"
  | .ifThenElse => "if"
  | .extends => "extends"
  | .disallow => "disallow"
  | .unevaluatedItems => "unevaluatedItems"
  | .unevaluatedProperties => "unevaluatedProperties"
  | _ => ""

variable {members : Members} {keyword name : String} {v w : Value}

theorem subschema_of_listed (hk : keyword ∈ partKeywords) (hm : (keyword, v) ∈ members)
    (hw : w ∈ schemasListed v) : Subschema members w := by
  cases v with
  | array items => exact .listed hk hm hw
  | _ => cases hw

theorem subschema_of_asList (hk : keyword ∈ partKeywords) (hm : (keyword, v) ∈ members)
    (hw : w ∈ asList v) : Subschema members w := by
  cases v with
  | array items => exact .listed hk hm hw
  | _ =>
    rw [asList, List.mem_singleton] at hw
    · exact hw ▸ .whole hk hm
    · exact nofun

theorem subschema_of_named (hk : keyword ∈ tableKeywords) (hm : (keyword, v) ∈ members)
    (hw : (name, w) ∈ schemasByName v) : Subschema members w := by
  cases v with
  | object table => exact .named hk hm hw
  | _ => cases hw

/-! ### Keywords of rules -/

theorem keyword_of_rule {d : Dialect} {rule : Rule} (h : Rule.ofKeyword? d keyword = some rule)
    (hr : rule.keyword ≠ "") : keyword = rule.keyword := by
  have hall : ∀ p ∈ Rule.table d, p.2.keyword ≠ "" → p.1 = p.2.keyword := by
    cases d <;> decide +kernel
  unfold Rule.ofKeyword? at h
  rw [List.lookup_eq_some_iff] at h
  obtain ⟨before, after, ht, -⟩ := h
  exact hall (keyword, rule) (by rw [ht]; simp) hr

theorem ofKeyword?_id (d : Dialect) : Rule.ofKeyword? d "$id" = none := by
  cases d <;> decide +kernel

/-! ### Schemas that differ in their identifier -/

def withoutId (members : Members) : Members := members.filter fun m => m.1 != "$id"

/-- Schemas that are the same, or two objects that differ in their `$id` only. -/
inductive Twins : Value → Value → Prop
  | same (v : Value) : Twins v v
  | objects {m₁ m₂ : Members} : withoutId m₁ = withoutId m₂ → Twins (.object m₁) (.object m₂)

variable {m₁ m₂ : Members}

theorem get?_withoutId (h : name ≠ "$id") (members : Members) :
    Members.get? (withoutId members) name = Members.get? members name := by
  induction members with
  | nil => rfl
  | cons m members ih =>
    obtain ⟨keyword, v⟩ := m
    unfold withoutId Members.get? at ih ⊢
    by_cases hk : keyword = "$id"
    · have hn : (name == keyword) = false := by simpa [hk] using h
      rw [List.filter_cons_of_neg (by simp [hk]), ih, List.lookup_cons, hn]
    · rw [List.filter_cons_of_pos (by simpa using hk), List.lookup_cons, List.lookup_cons, ih]

theorem get?_twins (h : withoutId m₁ = withoutId m₂) (hn : name ≠ "$id") :
    Members.get? m₁ name = Members.get? m₂ name := by
  rw [← get?_withoutId hn, h, get?_withoutId hn]

theorem mem_twins (h : withoutId m₁ = withoutId m₂) (hk : keyword ≠ "$id") :
    (keyword, v) ∈ m₁ ↔ (keyword, v) ∈ m₂ := by
  have hm : ∀ m : Members, (keyword, v) ∈ m ↔ (keyword, v) ∈ withoutId m := by
    intro m
    unfold withoutId
    rw [List.mem_filter]
    exact ⟨fun h => ⟨h, by simpa using hk⟩, fun h => h.1⟩
  rw [hm m₁, h, ← hm m₂]

theorem evaluating_twins (h : Twins v w) (d : Dialect) :
    Dialect.evaluating d v = Dialect.evaluating d w := by
  cases h with
  | same => rfl
  | @objects m₁ m₂ h =>
    have hg : (Value.object m₁).get? "$schema" = (Value.object m₂).get? "$schema" :=
      get?_twins h (by decide)
    unfold Dialect.evaluating
    rw [hg]

theorem countingKeywords_twins (h : withoutId m₁ = withoutId m₂) (d : Dialect) :
    withoutId (countingKeywords d m₁) = withoutId (countingKeywords d m₂) := by
  unfold countingKeywords
  rw [get?_twins h (show "$ref" ≠ "$id" by decide)]
  split
  · rfl
  · exact h

theorem mem_of_mem_countingKeywords {d : Dialect} (h : (keyword, v) ∈ countingKeywords d members) :
    (keyword, v) ∈ members := by
  unfold countingKeywords at h
  split at h
  · next hr =>
    rw [List.mem_singleton.mp h]
    exact mem_of_get? hr
  · exact h

end Preflight.Schema

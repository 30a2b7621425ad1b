import Mathlib.Data.List.Forall2
import Preflight.Proofs.Schema.Likeness
import Preflight.Proofs.Schema.Subschemas

/-!
# Descents side by side

Two evaluations go through schemas side by side. Their places correspond by a relation that leads from
a schema to its subschemas and along its references (`Correspondence`). At corresponding places
descents into subschemas, references and what a schema has evaluated are alike, if the walks of the two
evaluators are (`Evaluator.Alike`).
-/

namespace Preflight.Schema

open Json

/-- A relation of the places of two evaluations. -/
abbrev Places := Frame → Value → Frame → Value → Prop

def Places.At (K : Places) (d : Dialect) (r₁ : Resolver) (s₁ : Value) (r₂ : Resolver) (s₂ : Value) :
    Prop :=
  ∀ d', Dialect.evaluating d s₁ = .ok d' → K ⟨d', r₁⟩ s₁ ⟨d', r₂⟩ s₂

/-- References lead to schemas that correspond. -/
def Places.Met (K : Places) (d : Dialect) (p q : Resolved) : Prop :=
  Twins p.contents q.contents ∧ K.At d p.resolver p.contents q.resolver q.contents

/-- A relation of places that subschemas and references keep. Reasons to stop correspond by another
relation, in which mishaps are themselves. -/
structure Correspondence (S : Stop → Stop → Prop) (fetch₁ fetch₂ : Fetch) (K : Places) : Prop where
  mishap : ∀ m, S (.mishap m) (.mishap m)
  withoutKind : ∀ r s, S r s → S r.withoutKind s.withoutKind
  dialect : ∀ {f₁ s₁ f₂ s₂}, K f₁ s₁ f₂ s₂ → f₁.dialect = f₂.dialect
  twins : ∀ {f₁ s₁ f₂ s₂}, K f₁ s₁ f₂ s₂ → Twins s₁ s₂
  enter : ∀ {f₁ m₁ f₂ m₂ w}, K f₁ (.object m₁) f₂ (.object m₂) → Subschema m₁ w →
    Search.Alike S (fun r₁ r₂ => K.At f₁.dialect r₁ w r₂ w)
      (f₁.resolver.enter ⟨f₁.dialect, w⟩) (f₂.resolver.enter ⟨f₂.dialect, w⟩)
  stay : ∀ {f₁ m₁ f₂ m₂ w}, K f₁ (.object m₁) f₂ (.object m₂) → Subschema m₁ w →
    K.At f₁.dialect f₁.resolver w f₂.resolver w
  part : ∀ {f₁ m₁ f₂ m₂ w}, K f₁ (.object m₁) f₂ (.object m₂) → Subschema m₁ w → K f₁ w f₂ w
  refer : ∀ {f₁ m₁ f₂ m₂ keyword ref}, K f₁ (.object m₁) f₂ (.object m₂) →
    keyword ∈ ["$ref", "$dynamicRef"] → (keyword, .string ref) ∈ m₁ →
    Search.Alike S (K.Met f₁.dialect) (f₁.resolver.lookup fetch₁ ref) (f₂.resolver.lookup fetch₂ ref)
  recur : ∀ {f₁ m₁ f₂ m₂ v}, K f₁ (.object m₁) f₂ (.object m₂) → ("$recursiveRef", v) ∈ m₁ →
    Search.Alike S (K.Met f₁.dialect) (f₁.resolver.lookupRecursive fetch₁)
      (f₂.resolver.lookupRecursive fetch₂)

variable {S : Stop → Stop → Prop} {K : Places} {α β γ δ : Type}

theorem alike_ofUrl (hm : ∀ m, S (.mishap m) (.mishap m)) (r : Except UrlFault α) :
    Search.Alike S (fun a b => a = b ∧ r = .ok a) (Search.ofUrl r) (Search.ofUrl r) := by
  cases r with
  | ok a => exact Search.alike_pure ⟨rfl, rfl⟩
  | error fault => exact Search.alike_fail (hm _)

theorem alike_ofExcept (hm : ∀ m, S (.mishap m) (.mishap m)) (r : Except Mishap α) :
    Search.Alike S Eq (Run.ofExcept (r.mapError Stop.mishap)) (Run.ofExcept (r.mapError Stop.mishap)) := by
  cases r with
  | ok a => exact ⟨rfl, .ok rfl⟩
  | error m => exact ⟨rfl, .error (hm m)⟩

namespace Evaluator

/-- Evaluators whose walks are alike at corresponding places. -/
structure Alike (S : Stop → Stop → Prop) (K : Places) (e₁ e₂ : Evaluator) : Prop where
  places : Correspondence S e₁.fetch e₂.fetch K
  formats : e₁.formats = e₂.formats
  walk : ∀ {f₁ s₁ f₂ s₂}, K f₁ s₁ f₂ s₂ → ∀ d target,
    Trace.Alike S (e₁.walk d f₁ s₁ target) (e₂.walk d f₂ s₂ target)

variable {e₁ e₂ : Evaluator} {f₁ f₂ : Frame} {m₁ m₂ : Members} {v w : Value}

theorem withoutId_eq (h : Alike S K e₁ e₂) (hk : K f₁ (.object m₁) f₂ (.object m₂)) :
    withoutId m₁ = withoutId m₂ := by
  cases h.places.twins hk with
  | same => rfl
  | objects h => exact h

theorem get?_eq (h : Alike S K e₁ e₂) (hk : K f₁ (.object m₁) f₂ (.object m₂)) {name : String}
    (hn : name ≠ "$id") : Members.get? m₂ name = Members.get? m₁ name :=
  (get?_twins (withoutId_eq h hk) hn).symm

/-! ### Descents -/

theorem alike_inside (h : Alike S K e₁ e₂) {r₁ r₂ : Resolver} {s₁ s₂ : Value}
    (hd : f₁.dialect = f₂.dialect) (ht : Twins s₁ s₂) (hk : K.At f₁.dialect r₁ s₁ r₂ s₂) :
    Search.Alike S (fun i j => K i s₁ j s₂) (inside f₁ r₁ s₁) (inside f₂ r₂ s₂) := by
  unfold inside
  rw [← hd, ← evaluating_twins ht f₁.dialect]
  refine Search.alike_bind (alike_ofUrl h.places.mishap _) ?_
  rintro d _ ⟨rfl, he⟩
  exact Search.alike_pure (hk d he)

theorem alike_descendWith (h : Alike S K e₁ e₂) {r₁ r₂ : Resolver} {s₁ s₂ : Value}
    (hd : f₁.dialect = f₂.dialect) (ht : Twins s₁ s₂) (hk : K.At f₁.dialect r₁ s₁ r₂ s₂)
    (target : Value) (i j : Option Step) :
    Trace.Alike S (e₁.descendWith f₁ r₁ s₁ target i j) (e₂.descendWith f₂ r₂ s₂ target i j) := by
  have hinto : Trace.Alike S
      (.after (inside f₁ r₁ s₁) fun inner => (e₁.walk f₁.dialect inner s₁ target).map (.below i j))
      (.after (inside f₂ r₂ s₂) fun inner => (e₂.walk f₂.dialect inner s₂ target).map (.below i j)) := by
    refine Trace.alike_after (alike_inside h hd ht hk) fun inner inner' hin => ?_
    rw [← hd]
    exact Trace.alike_map (h.walk hin _ _)
  cases ht with
  | objects _ => exact hinto
  | same =>
    cases s₁ with
    | bool b =>
      cases b with
      | true => exact .done
      | false => exact Trace.alike_report _
    | _ => exact hinto

theorem alike_descend (h : Alike S K e₁ e₂) (hk : K f₁ (.object m₁) f₂ (.object m₂))
    (hw : Subschema m₁ w) (target : Value) (i j : Option Step) :
    Trace.Alike S (e₁.descend f₁ w target i j) (e₂.descend f₂ w target i j) := by
  have hd := h.places.dialect hk
  have hinto : Trace.Alike S
      (.after (f₁.resolver.enter ⟨f₁.dialect, w⟩) fun r => e₁.descendWith f₁ r w target i j)
      (.after (f₂.resolver.enter ⟨f₂.dialect, w⟩) fun r => e₂.descendWith f₂ r w target i j) :=
    Trace.alike_after (h.places.enter hk hw) fun r₁ r₂ hr =>
      alike_descendWith h hd (.same w) hr target i j
  cases w with
  | bool b => exact alike_descendWith h hd (.same _) (h.places.stay hk hw) target i j
  | _ => exact hinto

theorem alike_descendHere (h : Alike S K e₁ e₂) (hk : K f₁ (.object m₁) f₂ (.object m₂))
    (hw : Subschema m₁ w) (target : Value) :
    Trace.Alike S (e₁.descendHere f₁ w target) (e₂.descendHere f₂ w target) :=
  alike_descend h hk hw target none none

theorem alike_probe (h : Alike S K e₁ e₂) (hk : K f₁ (.object m₁) f₂ (.object m₂))
    (hw : Subschema m₁ w) (target : Value) :
    Search.Alike S Eq (e₁.probe f₁ w target) (e₂.probe f₂ w target) := by
  have hi := alike_inside h (h.places.dialect hk) (.same w) (h.places.stay hk hw)
  refine Search.alike_bind hi fun inner inner' hin => Trace.alike_isClean ?_
  rw [← h.places.dialect hin]
  exact h.walk hin _ _

theorem alike_refer (h : Alike S K e₁ e₂) (hk : K f₁ (.object m₁) f₂ (.object m₂)) {keyword : String}
    (hw : keyword ∈ ["$ref", "$dynamicRef"]) (hv : (keyword, v) ∈ m₁) (target : Value) :
    Trace.Alike S (e₁.refer f₁ v target) (e₂.refer f₂ v target) := by
  cases v with
  | string ref =>
    exact Trace.alike_after (h.places.refer hk hw hv) fun _ _ ⟨ht, hr⟩ =>
      alike_descendWith h (h.places.dialect hk) ht hr target none none
  | _ => exact .stop (h.places.mishap _)

theorem alike_recursiveReference (h : Alike S K e₁ e₂) (hk : K f₁ (.object m₁) f₂ (.object m₂))
    (hv : ("$recursiveRef", v) ∈ m₁) (target : Value) :
    Trace.Alike S (e₁.applyRecursiveReference ⟨f₁, m₁, target⟩)
      (e₂.applyRecursiveReference ⟨f₂, m₂, target⟩) :=
  Trace.alike_after (Search.alike_mapError h.places.withoutKind (h.places.recur hk hv))
    fun _ _ ⟨ht, hr⟩ => alike_descendWith h (h.places.dialect hk) ht hr target none none

/-! ### What has been evaluated -/

theorem alike_filterSearch {f g : α → Search Bool} {l : List α}
    (h : ∀ a ∈ l, Search.Alike S Eq (f a) (g a)) :
    Search.Alike S Eq (filterSearch f l) (filterSearch g l) := by
  induction l with
  | nil => exact Search.alike_pure rfl
  | cons a l ih =>
    obtain ⟨ha, hl⟩ := List.forall_mem_cons.mp h
    refine Search.alike_bind ha ?_
    rintro passes _ rfl
    refine Search.alike_bind (ih hl) ?_
    rintro rest _ rfl
    exact Search.alike_pure rfl

theorem alike_collect {f : α → Search (List γ)} {g : β → Search (List γ)} {l : List α} {l' : List β}
    (h : List.Forall₂ (fun a b => Search.Alike S Eq (f a) (g b)) l l') :
    Search.Alike S Eq (collect f l) (collect g l') := by
  induction h with
  | nil => exact Search.alike_pure rfl
  | cons ha _ ih =>
    refine Search.alike_bind ha ?_
    rintro first _ rfl
    refine Search.alike_bind ih ?_
    rintro rest _ rfl
    exact Search.alike_pure rfl

theorem alike_collect_mem {f g : α → Search (List γ)} {l : List α}
    (h : ∀ a ∈ l, Search.Alike S Eq (f a) (g a)) :
    Search.Alike S Eq (collect f l) (collect g l) := alike_collect (List.forall₂_same.mpr h)

theorem alike_validBelow (h : Alike S K e₁ e₂) (hk : K f₁ (.object m₁) f₂ (.object m₂))
    (hw : Subschema m₁ w) (target : Value) :
    Search.Alike S Eq (e₁.validBelow f₁ w target) (e₂.validBelow f₂ w target) :=
  Trace.alike_isClean (alike_descendHere h hk hw target)

theorem alike_referred (h : Alike S K e₁ e₂) (hd : f₁.dialect = f₂.dialect)
    {x y : Search Resolved} (hx : Search.Alike S (K.Met f₁.dialect) x y) :
    Search.Alike S (fun p q => K p.1 p.2 q.1 q.2) (referred f₁ x) (referred f₂ y) := by
  refine Search.alike_bind (Search.alike_mapError h.places.withoutKind hx) fun _ _ ⟨ht, hk⟩ => ?_
  exact Search.alike_bind (alike_inside h hd ht hk) fun _ _ hin => Search.alike_pure hin

theorem alike_referredAll (h : Alike S K e₁ e₂) (hk : K f₁ (.object m₁) f₂ (.object m₂))
    (d : Dialect) :
    List.Forall₂ (Search.Alike S fun p q => K p.1 p.2 q.1 q.2)
      (e₁.referredAll d f₁ m₁) (e₂.referredAll d f₂ m₂) := by
  have hd := h.places.dialect hk
  unfold referredAll Members.has
  simp only [get?_eq h hk (show "$ref" ≠ "$id" by decide),
    get?_eq h hk (show "$dynamicRef" ≠ "$id" by decide)]
  have hr : List.lookup "$recursiveRef" m₂ = List.lookup "$recursiveRef" m₁ :=
    get?_eq h hk (show "$recursiveRef" ≠ "$id" by decide)
  rw [hr]
  refine List.rel_append ?_ ?_
  · split
    · next ref hg =>
      exact .cons (alike_referred h hd (h.places.refer hk (by decide) (mem_of_get? hg))) .nil
    · exact .nil
  · split
    · cases hg : List.lookup "$recursiveRef" m₁ with
      | none => exact .nil
      | some v => exact .cons (alike_referred h hd (h.places.recur hk (mem_of_get? hg))) .nil
    · split
      · next ref hg =>
        exact .cons (alike_referred h hd (h.places.refer hk (by decide) (mem_of_get? hg))) .nil
      · exact .nil

theorem subschema_of_alternatives {keywords : List String} (hk : ∀ k ∈ keywords, k ∈ partKeywords)
    (hw : w ∈ alternatives keywords m₁) : Subschema m₁ w := by
  obtain ⟨keyword, hm, hw⟩ := List.mem_flatMap.mp hw
  split at hw
  · next schemas hg => exact .listed (hk keyword hm) (mem_of_get? hg) hw
  · cases hw

theorem subschema_of_dependent {members : Members} (hw : w ∈ dependent m₁ members) :
    Subschema m₁ w := by
  unfold dependent at hw
  split at hw
  · next table hg =>
    obtain ⟨⟨name, w'⟩, hm, rfl⟩ := List.mem_map.mp hw
    exact .named (by decide) (mem_of_get? hg) (List.mem_filter.mp hm).1
  · cases hw

theorem subschema_of_get? {keyword : String} (hk : keyword ∈ partKeywords)
    (hg : Members.get? m₁ keyword = some w) : Subschema m₁ w := .whole hk (mem_of_get? hg)

theorem alternatives_eq (h : Alike S K e₁ e₂) (hk : K f₁ (.object m₁) f₂ (.object m₂))
    {keywords : List String} (hn : "$id" ∉ keywords) :
    alternatives keywords m₂ = alternatives keywords m₁ := by
  refine List.flatMap_congr fun keyword hm => ?_
  rw [get?_eq h hk (ne_of_mem_of_not_mem hm hn)]

theorem alike_conditional (h : Alike S K e₁ e₂) (hk : K f₁ (.object m₁) f₂ (.object m₂))
    (target : Value) :
    Search.Alike S (fun l l' => l = l' ∧ ∀ w ∈ l, Subschema m₁ w)
      (e₁.conditional f₁ m₁ target) (e₂.conditional f₂ m₂ target) := by
  unfold conditional
  rw [get?_eq h hk (show "if" ≠ "$id" by decide), get?_eq h hk (show "then" ≠ "$id" by decide),
    get?_eq h hk (show "else" ≠ "$id" by decide)]
  split
  · exact Search.alike_pure ⟨rfl, fun w hw => absurd hw List.not_mem_nil⟩
  · next condition hg =>
    have hc : Subschema m₁ condition := subschema_of_get? (by decide) hg
    refine Search.alike_bind (alike_probe h hk hc target) ?_
    rintro valid _ rfl
    refine Search.alike_ite valid (Search.alike_pure ⟨rfl, ?_⟩) (Search.alike_pure ⟨rfl, ?_⟩)
    · refine List.forall_mem_cons.mpr ⟨hc, fun w hw => ?_⟩
      exact subschema_of_get? (by decide) (Option.mem_toList.mp hw)
    · exact fun w hw => subschema_of_get? (by decide) (Option.mem_toList.mp hw)

theorem alike_matchedNames (h : Alike S K e₁ e₂) (hk : K f₁ (.object m₁) f₂ (.object m₂))
    (names : List String) :
    Search.Alike S Eq (matchedNames m₁ names) (matchedNames m₂ names) := by
  unfold matchedNames
  rw [get?_eq h hk (show "patternProperties" ≠ "$id" by decide)]
  split
  · refine alike_collect_mem fun name _ => alike_collect_mem fun pattern _ => ?_
    refine Search.alike_bind (alike_ofExcept h.places.mishap _) ?_
    rintro found _ rfl
    exact Search.alike_pure rfl
  · exact Search.alike_pure rfl

theorem alike_directNames (h : Alike S K e₁ e₂) (hk : K f₁ (.object m₁) f₂ (.object m₂))
    (d : Dialect) (members : Members) :
    Search.Alike S Eq (e₁.directNames d f₁ m₁ members) (e₂.directNames d f₂ m₂ members) := by
  have hg {keyword : String} (hk' : keyword ∈ ["properties", "additionalProperties",
      "unevaluatedProperties"]) : Members.get? m₂ keyword = Members.get? m₁ keyword :=
    get?_eq h hk (ne_of_mem_of_not_mem hk' (by decide))
  unfold directNames
  dsimp only
  rw [hg (show "properties" ∈ _ by decide)]
  split
  · refine Search.alike_pure (List.flatMap_congr fun keyword hm => ?_)
    rw [hg hm]
  · refine Search.alike_bind (alike_collect_mem fun keyword hm => ?_) ?_
    · rw [hg (List.mem_cons_of_mem _ hm)]
      split
      · next sub hs =>
        have hp : ∀ k ∈ ["additionalProperties", "unevaluatedProperties"], k ∈ partKeywords := by
          decide
        have hw : Subschema m₁ sub := subschema_of_get? (hp keyword hm) hs
        refine Search.alike_bind (alike_filterSearch fun m _ => alike_validBelow h hk hw m.2) ?_
        rintro valid _ rfl
        exact Search.alike_pure rfl
      · exact Search.alike_pure rfl
    · rintro valid _ rfl
      exact Search.alike_pure rfl

/-- What references lead to has been evaluated alike if the schemas there have. -/
theorem alike_collect_referred {A : List (Search (Frame × Value))} {B : List (Search (Frame × Value))}
    {f g : Frame → Value → Search (List γ)}
    (hl : List.Forall₂ (Search.Alike S fun p q => K p.1 p.2 q.1 q.2) A B)
    (hf : ∀ {f₁ s₁ f₂ s₂}, K f₁ s₁ f₂ s₂ → Search.Alike S Eq (f f₁ s₁) (g f₂ s₂)) :
    Search.Alike S Eq (collect (fun found => do let (inner, sub) ← found; f inner sub) A)
      (collect (fun found => do let (inner, sub) ← found; g inner sub) B) :=
  alike_collect (hl.imp fun _ _ hx => Search.alike_bind hx fun _ _ hk => hf hk)

theorem alike_evaluatedNames (h : Alike S K e₁ e₂) (d : Dialect) (fuel : Nat) :
    ∀ {f₁ s₁ f₂ s₂}, K f₁ s₁ f₂ s₂ → ∀ members,
      Search.Alike S Eq (e₁.evaluatedNames d fuel f₁ s₁ members)
        (e₂.evaluatedNames d fuel f₂ s₂ members) := by
  induction fuel with
  | zero =>
    intro f₁ s₁ f₂ s₂ _ members
    rw [evaluatedNames, evaluatedNames]
    exact Search.alike_fail (h.places.mishap _)
  | succ fuel ih =>
    intro f₁ s₁ f₂ s₂ hk members
    have hobjects {m₁ m₂ : Members} (hk : K f₁ (.object m₁) f₂ (.object m₂)) :
        Search.Alike S Eq (e₁.evaluatedNames d (fuel + 1) f₁ (.object m₁) members)
          (e₂.evaluatedNames d (fuel + 1) f₂ (.object m₂) members) := by
      have hpart {w : Value} (hw : Subschema m₁ w) :
          Search.Alike S Eq (e₁.evaluatedNames d fuel f₁ w members)
            (e₂.evaluatedNames d fuel f₂ w members) := ih (h.places.part hk hw) members
      have hdep : dependent m₂ members = dependent m₁ members := by
        unfold dependent
        rw [get?_eq h hk (show "dependentSchemas" ≠ "$id" by decide)]
      have halt : ∀ k ∈ ["allOf", "oneOf", "anyOf"], k ∈ partKeywords := by decide
      rw [evaluatedNames, evaluatedNames, hdep, alternatives_eq h hk (by decide)]
      refine Search.alike_bind (alike_collect_referred (alike_referredAll h hk d)
        fun hk => ih hk members) ?_
      rintro referred _ rfl
      refine Search.alike_bind (alike_directNames h hk d members) ?_
      rintro direct _ rfl
      refine Search.alike_bind (alike_matchedNames h hk _) ?_
      rintro matched _ rfl
      refine Search.alike_bind (alike_collect_mem fun w hw => hpart (subschema_of_dependent hw)) ?_
      rintro dependent _ rfl
      refine Search.alike_bind (alike_collect_mem fun w hw => ?_) ?_
      · have hw := subschema_of_alternatives halt hw
        refine Search.alike_bind (alike_validBelow h hk hw _) ?_
        rintro valid _ rfl
        exact Search.alike_ite valid (hpart hw) (Search.alike_pure rfl)
      rintro alternative _ rfl
      refine Search.alike_bind (alike_conditional h hk _) ?_
      rintro conditional _ ⟨rfl, hc⟩
      refine Search.alike_bind (alike_collect_mem fun w hw => hpart (hc w hw)) ?_
      rintro chosen _ rfl
      exact Search.alike_pure rfl
    cases h.places.twins hk with
    | objects _ => exact hobjects hk
    | same =>
      cases s₁ with
      | object _ => exact hobjects hk
      | _ => exact Search.alike_pure rfl

theorem alike_evaluatedItems (h : Alike S K e₁ e₂) (d : Dialect) (fuel : Nat) :
    ∀ {f₁ s₁ f₂ s₂}, K f₁ s₁ f₂ s₂ → ∀ items,
      Search.Alike S Eq (e₁.evaluatedItems d fuel f₁ s₁ items)
        (e₂.evaluatedItems d fuel f₂ s₂ items) := by
  induction fuel with
  | zero =>
    intro f₁ s₁ f₂ s₂ _ items
    rw [evaluatedItems, evaluatedItems]
    exact Search.alike_fail (h.places.mishap _)
  | succ fuel ih =>
    intro f₁ s₁ f₂ s₂ hk items
    have hobjects {m₁ m₂ : Members} (hk : K f₁ (.object m₁) f₂ (.object m₂)) :
        Search.Alike S Eq (e₁.evaluatedItems d (fuel + 1) f₁ (.object m₁) items)
          (e₂.evaluatedItems d (fuel + 1) f₂ (.object m₂) items) := by
      have hpart {w : Value} (hw : Subschema m₁ w) :
          Search.Alike S Eq (e₁.evaluatedItems d fuel f₁ w items)
            (e₂.evaluatedItems d fuel f₂ w items) := ih (h.places.part hk hw) items
      have hdirect : directItems d m₂ = directItems d m₁ := by
        unfold directItems Members.has
        have hi : List.lookup "additionalItems" m₂ = List.lookup "additionalItems" m₁ :=
          get?_eq h hk (show "additionalItems" ≠ "$id" by decide)
        rw [get?_eq h hk (show "items" ≠ "$id" by decide),
          get?_eq h hk (show "prefixItems" ≠ "$id" by decide), hi]
      have hitems : Members.has m₂ "items" = Members.has m₁ "items" :=
        congrArg Option.isSome (get?_eq h hk (show "items" ≠ "$id" by decide))
      have halt : ∀ k ∈ ["allOf", "oneOf", "anyOf"], k ∈ partKeywords := by decide
      rw [evaluatedItems, evaluatedItems, hdirect, hitems, alternatives_eq h hk (by decide)]
      refine Search.alike_ite _ (Search.alike_pure rfl) ?_
      refine Search.alike_bind (alike_collect_referred (alike_referredAll h hk d)
        fun hk => ih hk items) ?_
      rintro referred _ rfl
      refine Search.alike_bind (alike_ofExcept h.places.mishap _) ?_
      rintro direct _ rfl
      cases direct with
      | none => exact Search.alike_pure rfl
      | some count =>
        refine Search.alike_bind (alike_conditional h hk _) ?_
        rintro conditional _ ⟨rfl, hc⟩
        refine Search.alike_bind (alike_collect_mem fun w hw => hpart (hc w hw)) ?_
        rintro chosen _ rfl
        refine Search.alike_bind (alike_collect_mem fun keyword hm => ?_) ?_
        · have hp : ∀ k ∈ ["contains", "unevaluatedItems"], k ∈ partKeywords := by decide
          rw [get?_eq h hk (ne_of_mem_of_not_mem hm (by decide))]
          split
          · next sub hs =>
            have hw : Subschema m₁ sub := subschema_of_get? (hp keyword hm) hs
            refine Search.alike_bind (alike_filterSearch fun p _ => alike_probe h hk hw p.1) ?_
            rintro valid _ rfl
            exact Search.alike_pure rfl
          · exact Search.alike_pure rfl
        rintro held _ rfl
        refine Search.alike_bind (alike_collect_mem fun w hw => ?_) ?_
        · have hw := subschema_of_alternatives halt hw
          refine Search.alike_bind (alike_validBelow h hk hw _) ?_
          rintro valid _ rfl
          exact Search.alike_ite valid (hpart hw) (Search.alike_pure rfl)
        rintro alternative _ rfl
        exact Search.alike_pure rfl
    cases h.places.twins hk with
    | objects _ => exact hobjects hk
    | same =>
      cases s₁ with
      | object _ => exact hobjects hk
      | _ => exact Search.alike_pure rfl

end Evaluator

end Preflight.Schema

import Mathlib.Data.List.Basic
import Preflight.Proofs.Routing.Segments

/-!
# Route trees seen as lists of segments

`Node.at?` walks a tree by segments as paths write them, so a tree is known by what stands at each
list of segments. `add_cons` and `add_cons_error` say all that adding a path does at one node: a
segment that does not fit (`Fits`) ends it there, any other leads to one child and changes that
child alone.
-/

namespace Preflight.Routing

namespace Node

variable {η : Type} {node : Node η} {text path : String} {handler : η} {rest : List String}

def leaf (handler : η) : Node η := ⟨some handler, [], none, none⟩

def child? (node : Node η) (text : String) : Option (Node η) :=
  if IsCatchAll text then
    node.catchAll.bind fun (name, handler) => if "*" ++ name = text then some (leaf handler) else none
  else if IsParam text then
    node.param.bind fun (name, child) => if ":" ++ name = text then some child else none
  else node.statics.lookup text

def at? (node : Node η) : List String → Option (Node η)
  | [] => some node
  | text :: rest => (node.child? text).bind (·.at? rest)

def handlerAt? (node : Node η) (s : List String) : Option η := (node.at? s).bind Node.handler

/-- Static children are under static segments, and a catch-all is an only child. -/
structure Tidy (node : Node η) : Prop where
  statics : ∀ text child, (text, child) ∈ node.statics → ¬ IsCatchAll text ∧ ¬ IsParam text
  alone : node.catchAll.isSome → node.statics = [] ∧ node.param = none

/-- A segment may be followed from a node: it may part from every other child there, and a catch-all
is the last one of its path. -/
structure Fits (node : Node η) (text : String) (rest : List String) : Prop where
  named : WellNamed text
  last : IsCatchAll text → rest = []
  parts : ∀ t, (node.child? t).isSome → t = text ∨ MayPart t text

@[simp] theorem at?_nil (node : Node η) : node.at? [] = some node := rfl

@[simp] theorem at?_cons (node : Node η) (text : String) (rest : List String) :
    node.at? (text :: rest) = (node.child? text).bind (·.at? rest) := rfl

@[simp] theorem child?_empty (text : String) : (empty : Node η).child? text = none := by
  unfold child? empty
  split
  · rfl
  · split <;> rfl

@[simp] theorem child?_leaf (handler : η) (text : String) : (leaf handler).child? text = none := by
  unfold child? leaf
  split
  · rfl
  · split <;> rfl

theorem tidy_empty : (empty : Node η).Tidy := ⟨by simp [empty], by simp [empty]⟩

theorem child?_static (hc : ¬ IsCatchAll text) (hp : ¬ IsParam text) :
    node.child? text = node.statics.lookup text := by
  simp [child?, hc, hp]

theorem child?_param (name : String) :
    node.child? (":" ++ name) =
      node.param.bind fun p => if p.1 = name then some p.2 else none := by
  have hp : IsParam (":" ++ name) := isParam_iff.2 ⟨name, rfl⟩
  have hc : ¬ IsCatchAll (":" ++ name) := fun h => h.not_isParam hp
  simp [child?, hc, hp]

theorem child?_catchAll (name : String) :
    node.child? ("*" ++ name) =
      node.catchAll.bind fun p => if p.1 = name then some (leaf p.2) else none := by
  have hc : IsCatchAll ("*" ++ name) := isCatchAll_iff.2 ⟨name, rfl⟩
  simp [child?, hc]

/-! ### What fits -/

theorem isSome_lookup_of_mem {α : Type} {l : List (String × α)} {k : String} {a : α} (h : (k, a) ∈ l) :
    (l.lookup k).isSome := by
  rw [List.lookup_isSome_iff]
  exact ⟨(k, a), h, by simp⟩

theorem parts_static_iff (hc : ¬ IsCatchAll text) (hp : ¬ IsParam text) :
    (∀ t, (node.child? t).isSome → t = text ∨ MayPart t text) ↔ node.catchAll = none := by
  constructor
  · intro h
    by_contra hne
    obtain ⟨⟨name, handler⟩, hca⟩ := Option.ne_none_iff_exists'.1 hne
    rcases h ("*" ++ name) (by simp [child?_catchAll, hca]) with heq | hm
    · exact hc (heq ▸ isCatchAll_iff.2 ⟨name, rfl⟩)
    · exact hm.1 (isCatchAll_iff.2 ⟨name, rfl⟩)
  · intro hnone t hsome
    by_cases htc : IsCatchAll t
    · simp [child?, htc, hnone] at hsome
    · exact .inr ⟨htc, hc, fun h => hp h.2⟩

theorem parts_param_iff (name : String) :
    (∀ t, (node.child? t).isSome → t = ":" ++ name ∨ MayPart t (":" ++ name)) ↔
      node.catchAll = none ∧ ∀ p ∈ node.param, p.1 = name := by
  have hp : IsParam (":" ++ name) := isParam_iff.2 ⟨name, rfl⟩
  have hc : ¬ IsCatchAll (":" ++ name) := fun h => h.not_isParam hp
  constructor
  · intro h
    refine ⟨?_, fun p hmem => ?_⟩
    · by_contra hne
      obtain ⟨⟨other, handler⟩, hca⟩ := Option.ne_none_iff_exists'.1 hne
      have hco : IsCatchAll ("*" ++ other) := isCatchAll_iff.2 ⟨other, rfl⟩
      rcases h ("*" ++ other) (by simp [child?_catchAll, hca]) with heq | hm
      · exact hc (heq ▸ hco)
      · exact hm.1 hco
    · obtain ⟨other, child⟩ := p
      rw [Option.mem_def] at hmem
      rcases h (":" ++ other) (by simp [child?_param, hmem]) with heq | hm
      · simpa using heq
      · exact absurd ⟨isParam_iff.2 ⟨other, rfl⟩, hp⟩ hm.2.2
  · rintro ⟨hnone, hsame⟩ t hsome
    by_cases htc : IsCatchAll t
    · simp [child?, htc, hnone] at hsome
    · by_cases htp : IsParam t
      · obtain ⟨other, rfl⟩ := isParam_iff.1 htp
        rw [child?_param] at hsome
        cases hpar : node.param with
        | none => simp [hpar] at hsome
        | some p =>
          simp only [hpar, Option.bind_some] at hsome
          split at hsome
          · next heq => exact .inl (by rw [← heq, hsame p hpar])
          · simp at hsome
      · exact .inr ⟨htc, hc, fun h => htp h.1⟩

theorem parts_catchAll_iff (ht : node.Tidy) (name : String) :
    (∀ t, (node.child? t).isSome → t = "*" ++ name ∨ MayPart t ("*" ++ name)) ↔
      node.statics = [] ∧ node.param = none ∧ ∀ p ∈ node.catchAll, p.1 = name := by
  have hc : IsCatchAll ("*" ++ name) := isCatchAll_iff.2 ⟨name, rfl⟩
  constructor
  · intro h
    -- every child is the catch-all itself
    have honly : ∀ t, (node.child? t).isSome → t = "*" ++ name := fun t hs =>
      (h t hs).resolve_right fun hm => hm.2.1 hc
    refine ⟨?_, ?_, fun p hmem => ?_⟩
    · by_contra hne
      obtain ⟨⟨k, child⟩, l, hl⟩ := List.exists_cons_of_ne_nil hne
      have hk := ht.statics k child (by simp [hl])
      have := honly k (by
        rw [child?_static hk.1 hk.2]
        exact isSome_lookup_of_mem (a := child) (by simp [hl]))
      exact hk.1 (this ▸ hc)
    · by_contra hne
      obtain ⟨⟨other, child⟩, hpar⟩ := Option.ne_none_iff_exists'.1 hne
      have hp : IsParam (":" ++ other) := isParam_iff.2 ⟨other, rfl⟩
      have := honly (":" ++ other) (by simp [child?_param, hpar])
      exact hc.not_isParam (this ▸ hp)
    · obtain ⟨other, handler⟩ := p
      rw [Option.mem_def] at hmem
      simpa using honly ("*" ++ other) (by simp [child?_catchAll, hmem])
  · rintro ⟨hstat, hpar, hsame⟩ t hsome
    by_cases htc : IsCatchAll t
    · obtain ⟨other, rfl⟩ := isCatchAll_iff.1 htc
      rw [child?_catchAll] at hsome
      cases hca : node.catchAll with
      | none => simp [hca] at hsome
      | some p =>
        simp only [hca, Option.bind_some] at hsome
        split at hsome
        · next heq => exact .inl (by rw [← heq, hsame p hca])
        · simp at hsome
    · exfalso
      unfold child? at hsome
      rw [if_neg htc] at hsome
      split at hsome <;> simp [hstat, hpar] at hsome

/-! ### Adding at one node -/

/-- A node with the child under one segment put in place, and nothing else changed. -/
structure Grown (node grown : Node η) (text : String) (child : Node η) : Prop where
  handler : grown.handler = node.handler
  child : ∀ t, grown.child? t = if t = text then some child else node.child? t
  tidy : grown.Tidy

/-- What adding a path works on below a node. -/
def childOrNew (node : Node η) (text : String) : Node η := (node.child? text).getD empty

theorem grown_static (ht : node.Tidy) (hc : ¬ IsCatchAll text) (hp : ¬ IsParam text)
    (hca : node.catchAll = none) (child : Node η) :
    Grown node { node with statics := Table.put node.statics text child } text child where
  handler := rfl
  child t := by
    by_cases htc : IsCatchAll t
    · have hne : t ≠ text := fun h => hc (h ▸ htc)
      simp [child?, htc, hne]
    · by_cases htp : IsParam t
      · have hne : t ≠ text := fun h => hp (h ▸ htp)
        simp [child?, htc, htp, hne]
      · simp [child?, htc, htp, Table.lookup_put]
  tidy := by
    refine ⟨fun t c hm => ?_, by simp [hca]⟩
    rcases Table.mem_put hm with heq | hm
    · obtain ⟨rfl, -⟩ := Prod.mk.inj heq
      exact ⟨hc, hp⟩
    · exact ht.statics t c hm

theorem grown_param (ht : node.Tidy) {name : String} (hca : node.catchAll = none)
    (hsame : ∀ p ∈ node.param, p.1 = name) (child : Node η) :
    Grown node { node with param := some (name, child) } (":" ++ name) child where
  handler := rfl
  child t := by
    by_cases htc : IsCatchAll t
    · have hne : t ≠ ":" ++ name := fun h => htc.not_isParam (isParam_iff.2 ⟨name, h⟩)
      simp [child?, htc, hne]
    · by_cases htp : IsParam t
      · obtain ⟨other, rfl⟩ := isParam_iff.1 htp
        rw [child?_param, child?_param]
        by_cases heq : name = other
        · simp [heq]
        · have hold : (node.param.bind fun p => if p.1 = other then some p.2 else none) = none := by
            cases hpar : node.param with
            | none => rfl
            | some p => simp [hsame p hpar, heq]
          rw [hold]
          simp [heq, Ne.symm heq]
      · have hne : t ≠ ":" ++ name := fun h => htp (isParam_iff.2 ⟨name, h⟩)
        simp [child?, htc, htp, hne]
  tidy := ⟨ht.statics, by simp [hca]⟩

theorem grown_catchAll {name : String} (hstat : node.statics = []) (hpar : node.param = none)
    (hsame : ∀ p ∈ node.catchAll, p.1 = name) (handler : η) :
    Grown node { node with catchAll := some (name, handler) } ("*" ++ name) (leaf handler) where
  handler := rfl
  child t := by
    by_cases htc : IsCatchAll t
    · obtain ⟨other, rfl⟩ := isCatchAll_iff.1 htc
      rw [child?_catchAll, child?_catchAll]
      by_cases heq : name = other
      · simp [heq]
      · have hold : (node.catchAll.bind fun p => if p.1 = other then some (leaf p.2) else none) = none := by
          cases hca : node.catchAll with
          | none => rfl
          | some p => simp [hsame p hca, heq]
        rw [hold]
        simp [heq, Ne.symm heq]
    · have hne : t ≠ "*" ++ name := fun h => htc (isCatchAll_iff.2 ⟨name, h⟩)
      simp [child?, htc, hne]
  tidy := ⟨by simp [hstat], fun _ => ⟨hstat, hpar⟩⟩

theorem setCatchAll_eq {p : String × η} (h : node.catchAll = some p) :
    { node with catchAll := some p } = node := by
  cases node; cases h; rfl

theorem add_nil_empty : Node.add path handler [] (empty : Node η) = (leaf handler, .ok ()) := rfl

/-- A segment that fits leads to one child; what becomes of the child becomes of the whole. -/
theorem add_cons (path : String) (handler : η) (ht : node.Tidy) (hf : node.Fits text rest) :
    ∃ grown, Node.add path handler (text :: rest) node =
        (grown, (Node.add path handler rest (node.childOrNew text)).2) ∧
      Grown node grown text (Node.add path handler rest (node.childOrNew text)).1 := by
  by_cases hc : IsCatchAll text
  · obtain ⟨name, rfl⟩ := isCatchAll_iff.1 hc
    obtain ⟨hstat, hpar, hsame⟩ := (parts_catchAll_iff ht name).1 hf.parts
    obtain rfl := hf.last hc
    cases hca : node.catchAll with
    | none =>
      have hb : node.childOrNew ("*" ++ name) = empty := by simp [childOrNew, child?_catchAll, hca]
      refine ⟨{ node with catchAll := some (name, handler) }, ?_, ?_⟩
      · simp [Node.add, ofText_catchAll path hf.named, hstat, hpar, hca, hb]
        rfl
      · rw [hb, add_nil_empty]
        exact grown_catchAll hstat hpar hsame handler
    | some p =>
      obtain ⟨other, old⟩ := p
      have hname : other = name := hsame _ hca
      have hb : node.childOrNew ("*" ++ name) = leaf old := by simp [childOrNew, child?_catchAll, hca, hname]
      refine ⟨node, ?_, ?_⟩
      · simp [Node.add, ofText_catchAll path hf.named, hstat, hpar, hca, hname, hb, leaf]
      · have hgrown := grown_catchAll hstat hpar hsame old
        rw [setCatchAll_eq (hname ▸ hca)] at hgrown
        rw [hb]
        exact hgrown
  · by_cases hp : IsParam text
    · obtain ⟨name, rfl⟩ := isParam_iff.1 hp
      obtain ⟨hca, hsame⟩ := (parts_param_iff name).1 hf.parts
      refine ⟨{ node with param := some (name, (Node.add path handler rest (node.childOrNew (":" ++ name))).1) },
        ?_, grown_param ht hca hsame _⟩
      cases hpar : node.param with
      | none => simp [Node.add, ofText_param path hf.named, hca, hpar, childOrNew, child?_param]
      | some p =>
        obtain ⟨other, child⟩ := p
        obtain rfl : other = name := hsame _ hpar
        simp [Node.add, ofText_param path hf.named, hpar, childOrNew, child?_param]
    · have hca := (parts_static_iff hc hp).1 hf.parts
      refine ⟨_, ?_, grown_static ht hc hp hca _⟩
      simp [Node.add, ofText_static path hf.named hc hp, hca, childOrNew, staticChild, child?_static hc hp]

/-- A segment that does not fit ends the adding, and nothing is made. It is the reason of the refusal,
and no handler behind it. -/
theorem add_cons_error (path : String) (handler : η) (ht : node.Tidy) (hf : ¬ node.Fits text rest) :
    ∃ conflict, Node.add path handler (text :: rest) node = (node, .error conflict) ∧
      conflict ≠ .taken path := by
  by_cases hn : WellNamed text
  · by_cases hc : IsCatchAll text
    · obtain ⟨name, rfl⟩ := isCatchAll_iff.1 hc
      by_cases hrest : rest = []
      · subst hrest
        have hparts := mt (parts_catchAll_iff ht name).2 fun h => hf ⟨hn, fun _ => rfl, h⟩
        by_cases hover : node.statics = [] ∧ node.param = none
        · cases hca : node.catchAll with
          | none => exact absurd ⟨hover.1, hover.2, by simp [hca]⟩ hparts
          | some p =>
            have hne : p.1 ≠ name := fun h => hparts ⟨hover.1, hover.2, by simp [hca, h]⟩
            simp [Node.add, ofText_catchAll path hn, hover, hca, hne]
        · have : (!node.statics.isEmpty || node.param.isSome) = true := by
            rw [Bool.or_eq_true, Bool.not_eq_true', Option.isSome_iff_ne_none]
            rw [not_and_or] at hover
            simpa [List.isEmpty_eq_false_iff] using hover
          simp [Node.add, ofText_catchAll path hn, this]
      · simp [Node.add, ofText_catchAll path hn, hrest]
    · by_cases hp : IsParam text
      · obtain ⟨name, rfl⟩ := isParam_iff.1 hp
        have hparts := mt (parts_param_iff name).2 fun h => hf ⟨hn, fun h => absurd h hc, h⟩
        cases hpar : node.param with
        | none =>
          cases hca : node.catchAll with
          | none => exact absurd ⟨hca, by simp [hpar]⟩ hparts
          | some p => simp [Node.add, ofText_param path hn, hpar, hca]
        | some p =>
          have hca : node.catchAll = none := by
            by_contra hne
            simpa [hpar] using (ht.alone (Option.isSome_iff_ne_none.2 hne)).2
          have hne : p.1 ≠ name := fun h => hparts ⟨hca, by simp [hpar, h]⟩
          simp [Node.add, ofText_param path hn, hpar, hne]
      · have hparts := mt (parts_static_iff hc hp).2 fun h => hf ⟨hn, fun h => absurd h hc, h⟩
        obtain ⟨p, hca⟩ := Option.ne_none_iff_exists'.1 hparts
        simp [Node.add, ofText_static path hn hc hp, hca]
  · obtain ⟨conflict, h, hne⟩ := ofText_error path hn
    exact ⟨conflict, by simp [Node.add, h], hne⟩

end Node

end Preflight.Routing

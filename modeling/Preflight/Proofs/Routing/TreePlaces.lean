import Preflight.Proofs.Routing.TreeHistory

/-!
# The nodes of a route tree

A node stands at a place of the tree: which child to follow at each node on the way (`Node.place?`). Adding
a path, whatever becomes of it, only ever does a few things (`Node.Grows`): it gives a handler to a node
that has none, or makes a child where it may live beside the others. So every node stays in order
(`Node.Grows.allOrderly`) and every place keeps its segments and its handler (`Node.Grows.keeps`). In a
tree whose nodes are in order, the segments on the way lead to one place only (`Node.eq_of_place?`). Of a
tree after any history all of this is said in `arranged_after`.
-/

namespace Preflight.Routing

def IsFree (text : String) : Prop := ∀ c ∈ text.toList, isWildcard c = false

/-- A name of a wildcard: there is one, and it has no wildcard in it. -/
def IsName (name : String) : Prop := name ≠ "" ∧ IsFree name

instance (text : String) : Decidable (IsFree text) := List.decidableBAll _ _

instance (name : String) : Decidable (IsName name) := inferInstanceAs (Decidable (_ ∧ _))

theorem IsFree.not_isCatchAll {text : String} (h : IsFree text) : ¬ IsCatchAll text := by
  intro hc
  have := h '*' (List.mem_of_mem_head? hc)
  exact absurd this (by decide)

theorem IsFree.not_isParam {text : String} (h : IsFree text) : ¬ IsParam text := by
  intro hp
  have := h ':' (List.mem_of_mem_head? hp)
  exact absurd this (by decide)

/-- What a segment is read as has the text of the segment, and no wildcard but the one that it begins with. -/
theorem ofText_cases {path text : String} {segment : Segment} (h : Segment.ofText path text = .ok segment) :
    (segment = .static text ∧ IsFree text) ∨
      (∃ name, segment = .param name ∧ text = ":" ++ name ∧ IsName name) ∨
      ∃ name, segment = .catchAll name ∧ text = "*" ++ name ∧ IsName name := by
  have hn : WellNamed text := wellNamed_of_ofText_ok h
  by_cases hc : IsCatchAll text
  · obtain ⟨name, rfl⟩ := isCatchAll_iff.1 hc
    rw [ofText_catchAll path hn] at h
    refine .inr (.inr ⟨name, (Except.ok.inj h).symm, rfl, ?_, ?_⟩)
    · rintro rfl
      exact hn.2.2 rfl
    · exact fun c hm => hn.1 c (by simpa using hm)
  · by_cases hp : IsParam text
    · obtain ⟨name, rfl⟩ := isParam_iff.1 hp
      rw [ofText_param path hn] at h
      refine .inr (.inl ⟨name, (Except.ok.inj h).symm, rfl, ?_, ?_⟩)
      · rintro rfl
        exact hn.2.1 rfl
      · exact fun c hm => hn.1 c (by simpa using hm)
    · rw [ofText_static path hn hc hp] at h
      refine .inl ⟨(Except.ok.inj h).symm, fun c hm => ?_⟩
      cases hl : text.toList with
      | nil => simp [hl] at hm
      | cons d rest =>
        rw [hl] at hm
        rcases List.mem_cons.1 hm with rfl | hm
        · simp only [IsCatchAll, IsParam, hl, List.head?_cons, Option.some.injEq] at hc hp
          simp [isWildcard, hc, hp]
        · exact hn.1 c (by simpa [hl] using hm)

namespace Node

variable {η : Type} {node child grown before after : Node η} {text path : String} {handler : η}
  {s : List String}

/-! ### Places -/

/-- A child of a node: a static one by its place in their order, the parameter or the catch-all. -/
inductive Branch
  | static (i : Nat)
  | param
  | catchAll
  deriving DecidableEq, Repr

/-- The child at a branch, with the segment that leads to it. -/
def branch? (node : Node η) : Branch → Option (String × Node η)
  | .static i => node.statics[i]?
  | .param => node.param.map fun (name, child) => (":" ++ name, child)
  | .catchAll => node.catchAll.map fun (name, handler) => ("*" ++ name, leaf handler)

/-- The node at a place below another one, with the segments on the way. -/
def place? (node : Node η) : List Branch → Option (List String × Node η)
  | [] => some ([], node)
  | b :: place =>
    (node.branch? b).bind fun (text, child) =>
      (child.place? place).map fun (s, found) => (text :: s, found)

theorem place?_cons_eq_some_iff {b : Branch} {place : List Branch} {found : Node η} :
    node.place? (b :: place) = some (s, found) ↔
      ∃ text child rest, node.branch? b = some (text, child) ∧
        child.place? place = some (rest, found) ∧ s = text :: rest := by
  rw [place?, Option.bind_eq_some_iff]
  constructor
  · rintro ⟨⟨text, child⟩, hb, h⟩
    obtain ⟨⟨rest, found'⟩, hp, heq⟩ := Option.map_eq_some_iff.1 h
    obtain ⟨rfl, rfl⟩ := Prod.mk.inj heq
    exact ⟨text, child, rest, hb, hp, rfl⟩
  · rintro ⟨text, child, rest, hb, hp, rfl⟩
    exact ⟨(text, child), hb, Option.map_eq_some_iff.2 ⟨(rest, found), hp, rfl⟩⟩

theorem branch?_empty (b : Branch) : (empty : Node η).branch? b = none := by
  cases b <;> simp [branch?, empty]

theorem branch?_leaf (handler : η) (b : Branch) : (leaf handler).branch? b = none := by
  cases b <;> simp [branch?, leaf]

/-! ### What adding a path does -/

/-- What one path makes of a node: it gives a handler where there is none, or a child that may live beside
the others, or goes down to a child. -/
inductive Grows (handler : η) : Node η → Node η → Prop
  | same (node : Node η) : Grows handler node node
  | handler {node : Node η} : node.handler = none →
      Grows handler node { node with handler := some handler }
  | newCatchAll {node : Node η} {name : String} : IsName name →
      node.statics = [] → node.param = none → node.catchAll = none →
      Grows handler node { node with catchAll := some (name, handler) }
  | newParam {node child : Node η} {name : String} : IsName name →
      node.param = none → node.catchAll = none → Grows handler empty child →
      Grows handler node { node with param := some (name, child) }
  | oldParam {node child grown : Node η} {name : String} :
      node.param = some (name, child) → Grows handler child grown →
      Grows handler node { node with param := some (name, grown) }
  | static {node grown : Node η} {text : String} : IsFree text → node.catchAll = none →
      Grows handler (node.staticChild text) grown →
      Grows handler node { node with statics := Table.put node.statics text grown }

theorem grows_add (path : String) (handler : η) (segments : List String) (node : Node η) :
    Grows handler node (Node.add path handler segments node).1 := by
  induction segments generalizing node with
  | nil =>
    cases hh : node.handler with
    | some old => simpa [Node.add, hh] using Grows.same node
    | none => simpa [Node.add, hh] using Grows.handler hh
  | cons text rest ih =>
    cases hs : Segment.ofText path text with
    | error conflict => simpa [Node.add, hs] using Grows.same node
    | ok segment =>
      rcases ofText_cases hs with ⟨rfl, hfree⟩ | ⟨name, rfl, rfl, hname⟩ | ⟨name, rfl, rfl, hname⟩
      · cases hc : node.catchAll with
        | some p => simpa [Node.add, hs, hc] using Grows.same node
        | none => simpa [Node.add, hs, hc] using Grows.static hfree hc (ih (node.staticChild text))
      · cases hp : node.param with
        | some p =>
          obtain ⟨existing, child⟩ := p
          by_cases heq : existing = name
          · subst heq
            simpa [Node.add, hs, hp] using Grows.oldParam hp (ih child)
          · simpa [Node.add, hs, hp, heq] using Grows.same node
        | none =>
          cases hc : node.catchAll with
          | some p => simpa [Node.add, hs, hp, hc] using Grows.same node
          | none => simpa [Node.add, hs, hp, hc] using Grows.newParam hname hp hc (ih empty)
      · by_cases hrest : rest = []
        · by_cases hover : node.statics = [] ∧ node.param = none
          · cases hc : node.catchAll with
            | none =>
              simpa [Node.add, hs, hrest, hover, hc] using Grows.newCatchAll hname hover.1 hover.2 hc
            | some p =>
              obtain ⟨existing, old⟩ := p
              by_cases heq : existing = name <;>
                simpa [Node.add, hs, hrest, hover, hc, heq] using Grows.same node
          · have hover' : (!node.statics.isEmpty || node.param.isSome) = true := by
              rw [Bool.or_eq_true, Bool.not_eq_true', Option.isSome_iff_ne_none]
              rw [not_and_or] at hover
              simpa [List.isEmpty_eq_false_iff] using hover
            simpa [Node.add, hs, hrest, hover'] using Grows.same node
        · simpa [Node.add, hs, hrest] using Grows.same node

/-! ### Nodes in order -/

/-- What holds at a node in order: a catch-all is an only child, static children have segments without
wildcards, each its own, and wildcards are named. -/
structure Orderly (node : Node η) : Prop where
  alone : node.catchAll.isSome → node.statics = [] ∧ node.param = none
  statics : ∀ p ∈ node.statics, IsFree p.1
  distinct : (node.statics.map (·.1)).Nodup
  param : ∀ p ∈ node.param, IsName p.1
  catchAll : ∀ p ∈ node.catchAll, IsName p.1

def AllOrderly (node : Node η) : Prop :=
  ∀ place s found, node.place? place = some (s, found) → found.Orderly

theorem AllOrderly.orderly (h : node.AllOrderly) : node.Orderly := h [] [] node rfl

theorem AllOrderly.below (h : node.AllOrderly) {b : Branch} (hb : node.branch? b = some (text, child)) :
    child.AllOrderly := fun place s found hp =>
  h (b :: place) (text :: s) found (place?_cons_eq_some_iff.2 ⟨text, child, s, hb, hp, rfl⟩)

theorem Orderly.allOrderly (h : node.Orderly)
    (hall : ∀ b text child, node.branch? b = some (text, child) → child.AllOrderly) :
    node.AllOrderly := by
  intro place s found hp
  cases place with
  | nil =>
    cases hp
    exact h
  | cons b place =>
    obtain ⟨text, child, rest, hb, hrest, rfl⟩ := place?_cons_eq_some_iff.1 hp
    exact hall b text child hb place rest found hrest

theorem allOrderly_of_childless (h : node.Orderly) (hnone : ∀ b, node.branch? b = none) :
    node.AllOrderly :=
  h.allOrderly fun b text child hb => by simp [hnone b] at hb

theorem allOrderly_empty : (empty : Node η).AllOrderly :=
  allOrderly_of_childless ⟨by simp [empty], by simp [empty], by simp [empty], by simp [empty],
    by simp [empty]⟩ branch?_empty

theorem allOrderly_leaf (handler : η) : (leaf handler).AllOrderly :=
  allOrderly_of_childless ⟨by simp [leaf], by simp [leaf], by simp [leaf], by simp [leaf],
    by simp [leaf]⟩ (branch?_leaf handler)

theorem exists_branch_of_mem (h : (text, child) ∈ node.statics) :
    ∃ i, node.branch? (.static i) = some (text, child) := List.mem_iff_getElem?.1 h

theorem staticChild_cases (node : Node η) (text : String) :
    node.staticChild text = empty ∨ (text, node.staticChild text) ∈ node.statics := by
  unfold staticChild
  cases hl : node.statics.lookup text with
  | none => exact .inl rfl
  | some child =>
    obtain ⟨init, tail, heq, -⟩ := List.lookup_eq_some_iff.1 hl
    refine .inr ?_
    rw [heq]
    simp

theorem AllOrderly.staticChild (h : node.AllOrderly) (text : String) :
    (node.staticChild text).AllOrderly := by
  rcases staticChild_cases node text with he | hm
  · rw [he]
    exact allOrderly_empty
  · obtain ⟨i, hi⟩ := exists_branch_of_mem hm
    exact h.below hi

theorem Grows.allOrderly (hg : Grows handler before after) (h : before.AllOrderly) :
    after.AllOrderly := by
  induction hg with
  | same node => exact h
  | handler hh =>
    refine Orderly.allOrderly ⟨h.orderly.alone, h.orderly.statics, h.orderly.distinct, h.orderly.param,
      h.orderly.catchAll⟩ fun b text child hb => ?_
    exact h.below (b := b) (by cases b <;> exact hb)
  | newCatchAll hname hstat hpar hca =>
    refine Orderly.allOrderly ⟨fun _ => ⟨hstat, hpar⟩, h.orderly.statics, h.orderly.distinct,
      h.orderly.param, by simpa using hname⟩ fun b text child hb => ?_
    cases b with
    | static i => exact h.below (b := .static i) hb
    | param => exact h.below (b := .param) hb
    | catchAll =>
      obtain ⟨-, rfl⟩ : _ ∧ leaf _ = child := by simpa [branch?] using hb
      exact allOrderly_leaf _
  | newParam hname hpar hca _ ih =>
    refine Orderly.allOrderly ⟨by simp [hca], h.orderly.statics, h.orderly.distinct,
      by simpa using hname, h.orderly.catchAll⟩ fun b text child hb => ?_
    cases b with
    | static i => exact h.below (b := .static i) hb
    | param =>
      obtain ⟨-, rfl⟩ : _ ∧ _ = child := by simpa [branch?] using hb
      exact ih allOrderly_empty
    | catchAll => exact h.below (b := .catchAll) hb
  | oldParam hpar _ ih =>
    -- where there is a parameter there was no catch-all
    have hca := h.orderly.alone
    refine Orderly.allOrderly ⟨fun hs => ?_, h.orderly.statics, h.orderly.distinct, ?_,
      h.orderly.catchAll⟩ fun b text child hb => ?_
    · have := (hca hs).2
      rw [hpar] at this
      cases this
    · simpa using h.orderly.param _ hpar
    · cases b with
      | static i => exact h.below (b := .static i) hb
      | param =>
        obtain ⟨-, rfl⟩ : _ ∧ _ = child := by simpa [branch?] using hb
        exact ih (h.below (b := .param) (Option.map_eq_some_iff.2 ⟨_, hpar, rfl⟩))
      | catchAll => exact h.below (b := .catchAll) hb
  | @static node grown text hfree hca _ ih =>
    refine Orderly.allOrderly ⟨by simp [hca], fun p hp => ?_, ?_, h.orderly.param, h.orderly.catchAll⟩
      fun b t child hb => ?_
    · rcases Table.mem_put hp with rfl | hp
      · exact hfree
      · exact h.orderly.statics p hp
    · show (List.map (·.1) (Table.put node.statics text grown)).Nodup
      rw [Table.map_fst_put]
      split
      · exact h.orderly.distinct
      · next hnew =>
        refine List.nodup_append.2 ⟨h.orderly.distinct, List.nodup_cons.2 ⟨List.not_mem_nil, .nil⟩,
          fun a ha b hb => ?_⟩
        rintro rfl
        exact hnew (List.mem_singleton.1 hb ▸ ha)
    · cases b with
      | static i =>
        rcases Table.mem_put (List.mem_of_getElem? hb) with heq | hm
        · obtain ⟨-, rfl⟩ := Prod.mk.inj heq
          exact ih (h.staticChild text)
        · obtain ⟨j, hj⟩ := exists_branch_of_mem hm
          exact h.below hj
      | param => exact h.below (b := .param) hb
      | catchAll => exact h.below (b := .catchAll) hb

/-! ### What stays -/

/-- Every place of one tree is a place of another one, under the same segments and with its handler if it
has one. -/
def Keeps (before after : Node η) : Prop :=
  ∀ place s found, before.place? place = some (s, found) →
    ∃ found', after.place? place = some (s, found') ∧ ∀ x, found.handler = some x → found'.handler = some x

theorem keeps_refl (node : Node η) : Keeps node node := fun _ _ found hp => ⟨found, hp, fun _ hx => hx⟩

theorem Keeps.trans {last : Node η} (h : Keeps before after) (h' : Keeps after last) :
    Keeps before last := by
  intro place s found hp
  obtain ⟨middle, hm, hhm⟩ := h place s found hp
  obtain ⟨found', hf, hhf⟩ := h' place s middle hm
  exact ⟨found', hf, fun x hx => hhf x (hhm x hx)⟩

/-- It comes down to the node itself and its children. -/
theorem keeps_of_branches (hh : ∀ x, before.handler = some x → after.handler = some x)
    (hb : ∀ b text child, before.branch? b = some (text, child) →
      ∃ child', after.branch? b = some (text, child') ∧ Keeps child child') : Keeps before after := by
  intro place s found hp
  cases place with
  | nil =>
    cases hp
    exact ⟨after, rfl, hh⟩
  | cons b place =>
    obtain ⟨text, child, rest, hbr, hrest, rfl⟩ := place?_cons_eq_some_iff.1 hp
    obtain ⟨child', hbr', hk⟩ := hb b text child hbr
    obtain ⟨found', hrest', hx⟩ := hk place rest found hrest
    exact ⟨found', place?_cons_eq_some_iff.2 ⟨text, child', rest, hbr', hrest', rfl⟩, hx⟩

theorem Grows.keeps (hg : Grows handler before after) : Keeps before after := by
  induction hg with
  | same node => exact keeps_refl node
  | handler hh =>
    refine keeps_of_branches (by simp [hh]) fun b text child hb => ⟨child, ?_, keeps_refl child⟩
    cases b <;> exact hb
  | newCatchAll _ _ _ hca =>
    refine keeps_of_branches (fun _ hx => hx) fun b text child hb => ⟨child, ?_, keeps_refl child⟩
    cases b with
    | catchAll => simp [branch?, hca] at hb
    | static i => exact hb
    | param => exact hb
  | newParam _ hpar _ _ _ =>
    refine keeps_of_branches (fun _ hx => hx) fun b text child hb => ⟨child, ?_, keeps_refl child⟩
    cases b with
    | param => simp [branch?, hpar] at hb
    | static i => exact hb
    | catchAll => exact hb
  | @oldParam node child grown name hpar _ ih =>
    refine keeps_of_branches (fun _ hx => hx) fun b text found hb => ?_
    cases b with
    | param =>
      obtain ⟨rfl, rfl⟩ : ":" ++ name = text ∧ child = found := by simpa [branch?, hpar] using hb
      exact ⟨grown, rfl, ih⟩
    | static i => exact ⟨found, hb, keeps_refl found⟩
    | catchAll => exact ⟨found, hb, keeps_refl found⟩
  | @static node grown text _ _ _ ih =>
    refine keeps_of_branches (fun _ hx => hx) fun b t found hb => ?_
    cases b with
    | static i =>
      rcases Table.getElem?_put hb text grown with hput | ⟨rfl, hl, hput⟩
      · exact ⟨found, hput, keeps_refl found⟩
      · rw [staticChild, hl, Option.getD_some] at ih
        exact ⟨grown, hput, ih⟩
    | param => exact ⟨found, hb, keeps_refl found⟩
    | catchAll => exact ⟨found, hb, keeps_refl found⟩

/-! ### Segments lead to one place -/

theorem isParam_of_branch? (hb : node.branch? .param = some (text, child)) : IsParam text := by
  obtain ⟨⟨name, child'⟩, -, heq⟩ := Option.map_eq_some_iff.1 hb
  exact isParam_iff.2 ⟨name, (Prod.mk.inj heq).1.symm⟩

theorem isCatchAll_of_branch? (hb : node.branch? .catchAll = some (text, child)) : IsCatchAll text := by
  obtain ⟨⟨name, handler⟩, -, heq⟩ := Option.map_eq_some_iff.1 hb
  exact isCatchAll_iff.2 ⟨name, (Prod.mk.inj heq).1.symm⟩

theorem Orderly.isFree (h : node.Orderly) {i : Nat} (hb : node.branch? (.static i) = some (text, child)) :
    IsFree text := h.statics _ (List.mem_of_getElem? hb)

/-- No two children of a node in order have the same segment. -/
theorem Orderly.branch_unique (h : node.Orderly) {b b' : Branch} {child' : Node η}
    (hb : node.branch? b = some (text, child)) (hb' : node.branch? b' = some (text, child')) : b = b' := by
  cases b with
  | static i =>
    cases b' with
    | static j =>
      have hi : (node.statics.map (·.1))[i]? = some text := by
        rw [List.getElem?_map, show node.statics[i]? = _ from hb]
        rfl
      have hj : (node.statics.map (·.1))[j]? = some text := by
        rw [List.getElem?_map, show node.statics[j]? = _ from hb']
        rfl
      obtain ⟨hlt, -⟩ := List.getElem?_eq_some_iff.1 hi
      rw [(List.getElem?_inj hlt h.distinct).1 (hi.trans hj.symm)]
    | param => exact absurd (isParam_of_branch? hb') (h.isFree hb).not_isParam
    | catchAll => exact absurd (isCatchAll_of_branch? hb') (h.isFree hb).not_isCatchAll
  | param =>
    cases b' with
    | static j => exact absurd (isParam_of_branch? hb) (h.isFree hb').not_isParam
    | param => rfl
    | catchAll => exact absurd (isParam_of_branch? hb) (isCatchAll_of_branch? hb').not_isParam
  | catchAll =>
    cases b' with
    | static j => exact absurd (isCatchAll_of_branch? hb) (h.isFree hb').not_isCatchAll
    | param => exact absurd (isParam_of_branch? hb') (isCatchAll_of_branch? hb).not_isParam
    | catchAll => rfl

/-- Where all nodes are in order, the segments on the way tell where a node stands. -/
theorem eq_of_place? (h : node.AllOrderly) {p q : List Branch} {m n : Node η}
    (hp : node.place? p = some (s, m)) (hq : node.place? q = some (s, n)) : p = q := by
  induction p generalizing node s q with
  | nil =>
    obtain ⟨rfl, -⟩ : [] = s ∧ node = m := by simpa [place?] using hp
    cases q with
    | nil => rfl
    | cons b q =>
      obtain ⟨text, child, rest, -, -, heq⟩ := place?_cons_eq_some_iff.1 hq
      cases heq
  | cons b p ih =>
    obtain ⟨text, child, rest, hb, hp', rfl⟩ := place?_cons_eq_some_iff.1 hp
    cases q with
    | nil => simp [place?] at hq
    | cons b' q =>
      obtain ⟨text', child', rest', hb', hq', heq⟩ := place?_cons_eq_some_iff.1 hq
      obtain ⟨rfl, rfl⟩ := List.cons.inj heq
      obtain rfl := h.orderly.branch_unique hb hb'
      rw [hb] at hb'
      cases hb'
      rw [ih (h.below hb) hp' hq']

theorem lookup_of_mem {α : Type} {l : List (String × α)} {k : String} {a : α}
    (hd : (l.map (·.1)).Nodup) (hm : (k, a) ∈ l) : l.lookup k = some a := by
  obtain ⟨init, tail, rfl⟩ := List.append_of_mem hm
  refine List.lookup_eq_some_iff.2 ⟨init, tail, rfl, fun p hp => ?_⟩
  rw [List.map_append, List.map_cons, List.nodup_append] at hd
  simpa using (hd.2.2 p.1 (List.mem_map_of_mem hp) k List.mem_cons_self).symm

theorem Orderly.child?_of_branch? (h : node.Orderly) {b : Branch}
    (hb : node.branch? b = some (text, child)) : node.child? text = some child := by
  cases b with
  | static i =>
    have hfree := h.isFree hb
    rw [child?_static hfree.not_isCatchAll hfree.not_isParam]
    exact lookup_of_mem h.distinct (List.mem_of_getElem? hb)
  | param =>
    obtain ⟨⟨name, child'⟩, hp, heq⟩ := Option.map_eq_some_iff.1 hb
    obtain ⟨rfl, rfl⟩ := Prod.mk.inj heq
    simp [child?_param, hp]
  | catchAll =>
    obtain ⟨⟨name, handler⟩, hc, heq⟩ := Option.map_eq_some_iff.1 hb
    obtain ⟨rfl, rfl⟩ := Prod.mk.inj heq
    simp [child?_catchAll, hc]

theorem exists_branch_of_child? (h : node.child? text = some child) :
    ∃ b, node.branch? b = some (text, child) := by
  by_cases hc : IsCatchAll text
  · obtain ⟨name, rfl⟩ := isCatchAll_iff.1 hc
    rw [child?_catchAll, Option.bind_eq_some_iff] at h
    obtain ⟨⟨other, handler⟩, hca, h⟩ := h
    obtain ⟨rfl, hleaf⟩ := Option.ite_none_right_eq_some.1 h
    cases hleaf
    exact ⟨.catchAll, by simp [branch?, hca]⟩
  · by_cases hp : IsParam text
    · obtain ⟨name, rfl⟩ := isParam_iff.1 hp
      rw [child?_param, Option.bind_eq_some_iff] at h
      obtain ⟨⟨other, child'⟩, hpar, h⟩ := h
      obtain ⟨rfl, hchild⟩ := Option.ite_none_right_eq_some.1 h
      cases hchild
      exact ⟨.param, by simp [branch?, hpar]⟩
    · rw [child?_static hc hp] at h
      obtain ⟨init, tail, heq, -⟩ := List.lookup_eq_some_iff.1 h
      have hm : (text, child) ∈ node.statics := by
        rw [heq]
        simp
      obtain ⟨i, hi⟩ := exists_branch_of_mem hm
      exact ⟨.static i, hi⟩

/-- Where all nodes are in order, segments lead to the node at the place that they are the way to. -/
theorem exists_place?_iff (h : node.AllOrderly) {found : Node η} :
    (∃ place, node.place? place = some (s, found)) ↔ node.at? s = some found := by
  constructor
  · rintro ⟨place, hp⟩
    induction place generalizing node s with
    | nil =>
      cases hp
      rfl
    | cons b place ih =>
      obtain ⟨text, child, rest, hb, hrest, rfl⟩ := place?_cons_eq_some_iff.1 hp
      rw [at?_cons, h.orderly.child?_of_branch? hb, Option.bind_some]
      exact ih (h.below hb) hrest
  · intro ha
    induction s generalizing node with
    | nil =>
      cases ha
      exact ⟨[], rfl⟩
    | cons text rest ih =>
      obtain ⟨child, hc, ha⟩ := Option.bind_eq_some_iff.1 ha
      obtain ⟨b, hb⟩ := exists_branch_of_child? hc
      obtain ⟨place, hp⟩ := ih (h.below hb) ha
      exact ⟨b :: place, place?_cons_eq_some_iff.2 ⟨text, child, rest, hb, hp, rfl⟩⟩

theorem branch?_of_catchAll {place : List Branch} {found : Node η}
    (h : node.place? (place ++ [.catchAll]) = some (s, found)) (b : Branch) : found.branch? b = none := by
  induction place generalizing node s with
  | nil =>
    obtain ⟨text, child, rest, hb, hp, -⟩ := place?_cons_eq_some_iff.1 h
    obtain ⟨⟨name, handler⟩, -, heq⟩ := Option.map_eq_some_iff.1 hb
    obtain ⟨-, rfl⟩ := Prod.mk.inj heq
    cases hp
    exact branch?_leaf handler b
  | cons first place ih =>
    obtain ⟨text, child, rest, -, hp, -⟩ := place?_cons_eq_some_iff.1 h
    exact ih hp

end Node

/-! ### Trees after a history -/

variable {η : Type}

/-- What holds of a tree and the paths that it was asked for: each of its nodes is in order and stands at
one place only, there is nothing below a catch-all, and the handlers are those of the paths that were taken,
each at its own path. -/
structure History.Arranged (h : History η) : Prop where
  orderly : ∀ place s n, h.tree.place? place = some (s, n) → n.Orderly
  childless : ∀ place s n, h.tree.place? (place ++ [.catchAll]) = some (s, n) →
    ∀ b, n.branch? b = none
  unique : ∀ p q s m n, h.tree.place? p = some (s, m) → h.tree.place? q = some (s, n) → p = q
  handlers : ∀ s x, (∃ place n, h.tree.place? place = some (s, n) ∧ n.handler = some x) ↔
    ∃ a ∈ h.asked, a.Taken ∧ segments a.path = s ∧ a.handler = x

namespace History

theorem grows_ask (h : History η) (path : String) (handler : η) :
    Node.Grows handler h.tree (h.ask path handler).tree := by
  by_cases hp : path.toList.head? = some '/'
  · rw [ask_of_rooted hp]
    exact Node.grows_add path handler _ _
  · rw [ask_of_unrooted hp]
    exact .same _

theorem allOrderly_askAll {h : History η} (ho : h.tree.AllOrderly) (paths : List (String × η)) :
    (h.askAll paths).tree.AllOrderly := by
  induction paths generalizing h with
  | nil => exact ho
  | cons p paths ih => exact ih ((h.grows_ask p.1 p.2).allOrderly ho)

theorem keeps_askAll (h : History η) (paths : List (String × η)) :
    h.tree.Keeps (h.askAll paths).tree := by
  induction paths generalizing h with
  | nil => exact Node.keeps_refl _
  | cons p paths ih => exact (h.grows_ask p.1 p.2).keeps.trans (ih (h.ask p.1 p.2))

end History

/-- After any paths that a fresh tree was asked for, taken or not, its nodes are in order, each at one place
that its segments tell, and its handlers are those of the paths taken; and whatever it is asked for later
on, its nodes stay at their places, under their segments and with their handlers. -/
theorem arranged_after (paths : List (String × η)) :
    (History.after paths).Arranged ∧
      ∀ later, (History.after paths).tree.Keeps ((History.after paths).askAll later).tree := by
  have ho : (History.after paths).tree.AllOrderly :=
    History.allOrderly_askAll Node.allOrderly_empty paths
  have he : (History.after paths).Explains := History.explains_start.askAll paths
  refine ⟨⟨ho, fun _ _ _ hp => Node.branch?_of_catchAll hp, fun _ _ _ _ _ => Node.eq_of_place? ho,
    fun s x => ?_⟩, History.keeps_askAll _⟩
  rw [← he.handled, Node.handlerAt?, Option.bind_eq_some_iff, exists_comm]
  simp only [exists_and_right, Node.exists_place?_iff ho]

end Preflight.Routing

import Preflight.Proofs.Routing.TreeView

/-!
# Which paths a route tree takes

`Holds tree paths`: the tree is the one that paths with these lists of segments make. Such a tree
takes a path exactly if its segments are in order and it parts well from every path there
(`Holds.add_ok_iff`), and then it holds that path as well (`Holds.add`).
-/

namespace Preflight.Routing

namespace Node

variable {η : Type} {node : Node η} {text path : String} {handler : η} {s segments : List String}
  {paths : List (List String)}

def Sound (node : Node η) : Prop := ∀ s n, node.at? s = some n → n.Tidy

/-- A path made of these segments may be a route: each is well named, and only the last one may be a
catch-all. -/
def InOrder (segments : List String) : Prop :=
  (∀ t ∈ segments, WellNamed t) ∧ ∀ t ∈ segments.dropLast, ¬ IsCatchAll t

instance (segments : List String) : Decidable (InOrder segments) := inferInstanceAs (Decidable (_ ∧ _))

theorem inOrder_cons {rest : List String} :
    InOrder (text :: rest) ↔ WellNamed text ∧ (IsCatchAll text → rest = []) ∧ InOrder rest := by
  cases rest with
  | nil => simp [InOrder]
  | cons u rest => simp [InOrder]; tauto

theorem sound_empty : (empty : Node η).Sound := by
  intro s n h
  cases s with
  | nil => cases h; exact tidy_empty
  | cons t s => simp at h

theorem Sound.tidy (h : node.Sound) : node.Tidy := h [] node rfl

theorem Sound.childOrNew (h : node.Sound) (text : String) : (node.childOrNew text).Sound := by
  cases hc : node.child? text with
  | none => simpa [Node.childOrNew, hc] using sound_empty
  | some child =>
    intro s n hs
    rw [Node.childOrNew, hc, Option.getD_some] at hs
    exact h (text :: s) n (by simp [hc, hs])

theorem handlerAt?_cons (node : Node η) (text : String) (s : List String) :
    node.handlerAt? (text :: s) = (node.childOrNew text).handlerAt? s := by
  cases hc : node.child? text with
  | some child => simp [handlerAt?, childOrNew, hc]
  | none =>
    cases s with
    | nil => simp [handlerAt?, childOrNew, hc, empty]
    | cons t s => simp [handlerAt?, childOrNew, hc]

theorem isSome_at?_childOrNew_iff :
    ((node.childOrNew text).at? s).isSome ↔ s = [] ∨ (node.at? (text :: s)).isSome := by
  cases s with
  | nil => simp
  | cons t s => cases hc : node.child? text <;> simp [childOrNew, hc]

/-- Under a segment that fits, what stands there parts well from the rest of a path exactly if what
stands in the tree parts well from the path. -/
theorem Fits.partWell_iff {rest : List String} (hf : node.Fits text rest) :
    (∀ s, ((node.childOrNew text).at? s).isSome → PartWell s rest) ↔
      ∀ s, (node.at? s).isSome → PartWell s (text :: rest) := by
  constructor
  · intro hb s hs
    cases s with
    | nil => simp
    | cons a s =>
      rw [partWell_cons]
      by_cases ha : a = text
      · subst ha
        exact .inl ⟨rfl, hb s (isSome_at?_childOrNew_iff.2 (.inr hs))⟩
      · have hchild : (node.child? a).isSome := by
          cases hc : node.child? a with
          | none => simp [hc] at hs
          | some child => rfl
        exact .inr ⟨ha, (hf.parts a hchild).resolve_left ha⟩
  · intro hb s hs
    rcases isSome_at?_childOrNew_iff.1 hs with rfl | hs
    · simp
    · have hparts := hb _ hs
      rw [partWell_cons] at hparts
      exact (hparts.resolve_right fun hne => hne.1 rfl).2

/-- A tree takes a path whose segments are in order, that has no handler yet and that parts well from
whatever stands in the tree. -/
theorem add_ok_iff (h : node.Sound) :
    (Node.add path handler segments node).2 = .ok () ↔
      InOrder segments ∧ node.handlerAt? segments = none ∧
        ∀ s, (node.at? s).isSome → PartWell s segments := by
  induction segments generalizing node with
  | nil => cases hh : node.handler <;> simp [Node.add, handlerAt?, InOrder, hh]
  | cons t rest ih =>
    by_cases hf : node.Fits t rest
    · obtain ⟨grown, hadd, -⟩ := add_cons path handler h.tidy hf
      rw [hadd, ih (h.childOrNew t), inOrder_cons, handlerAt?_cons, hf.partWell_iff]
      constructor
      · rintro ⟨ho, hrest⟩
        exact ⟨⟨hf.named, hf.last, ho⟩, hrest⟩
      · rintro ⟨ho, hrest⟩
        exact ⟨ho.2.2, hrest⟩
    · obtain ⟨conflict, hadd, -⟩ := add_cons_error path handler h.tidy hf
      rw [hadd, inOrder_cons]
      refine ⟨fun heq => by simp at heq, ?_⟩
      rintro ⟨⟨hn, hl, -⟩, -, hb⟩
      refine absurd ⟨hn, hl, fun a ha => ?_⟩ hf
      have hparts := hb [a] (by
        obtain ⟨child, hc⟩ := Option.isSome_iff_exists.1 ha
        simp [hc])
      rw [partWell_cons] at hparts
      exact hparts.imp And.left And.right

/-! ### A tree that took a path -/

/-- A tree after it took a path: it has the nodes of the path and its handler, and is otherwise the
tree before. -/
structure Took (before after : Node η) (segments : List String) (handler : η) : Prop where
  sound : after.Sound
  present : ∀ s, (after.at? s).isSome ↔ (before.at? s).isSome ∨ s <+: segments
  handled : ∀ s, after.handlerAt? s = if s = segments then some handler else before.handlerAt? s

theorem Sound.took (h : node.Sound) (handler : η) :
    Took node { node with handler := some handler } [] handler := by
  have hchild : ∀ t, ({ node with handler := some handler } : Node η).child? t = node.child? t :=
    fun _ => rfl
  refine ⟨fun s n hs => ?_, fun s => ?_, fun s => ?_⟩
  · cases s with
    | nil => cases hs; exact ⟨h.tidy.statics, h.tidy.alone⟩
    | cons t s => exact h (t :: s) n (by simpa [hchild] using hs)
  · cases s with
    | nil => simp
    | cons t s => simp [hchild]
  · cases s with
    | nil => simp [handlerAt?]
    | cons t s => simp [handlerAt?, hchild]

namespace Grown

variable {grown child : Node η} (hg : Grown node grown text child)

include hg

theorem at?_cons (a : String) (s : List String) :
    grown.at? (a :: s) = if a = text then child.at? s else node.at? (a :: s) := by
  rw [Node.at?_cons, hg.child]
  by_cases ha : a = text <;> simp [ha]

theorem handlerAt?_cons (a : String) (s : List String) :
    grown.handlerAt? (a :: s) = if a = text then child.handlerAt? s else node.handlerAt? (a :: s) := by
  rw [handlerAt?, hg.at?_cons]
  by_cases ha : a = text <;> simp [ha, handlerAt?]

theorem sound (h : node.Sound) (hc : child.Sound) : grown.Sound := by
  intro s n hs
  cases s with
  | nil => cases hs; exact hg.tidy
  | cons a s =>
    rw [hg.at?_cons] at hs
    by_cases ha : a = text
    · exact hc s n (by simpa [ha] using hs)
    · exact h (a :: s) n (by simpa [ha] using hs)

theorem present {rest : List String}
    (hc : ∀ s, (child.at? s).isSome ↔ ((node.childOrNew text).at? s).isSome ∨ s <+: rest) (s : List String) :
    (grown.at? s).isSome ↔ (node.at? s).isSome ∨ s <+: text :: rest := by
  cases s with
  | nil => simp
  | cons a s =>
    rw [hg.at?_cons, List.cons_prefix_cons]
    by_cases ha : a = text
    · subst ha
      rw [if_pos rfl, hc, isSome_at?_childOrNew_iff]
      constructor
      · rintro ((rfl | hs) | hs)
        · exact .inr ⟨rfl, List.nil_prefix⟩
        · exact .inl hs
        · exact .inr ⟨rfl, hs⟩
      · rintro (hs | ⟨-, hs⟩)
        · exact .inl (.inr hs)
        · exact .inr hs
    · simp [ha]

theorem took {rest : List String} (h : node.Sound)
    (ht : Took (node.childOrNew text) child rest handler) : Took node grown (text :: rest) handler := by
  refine ⟨hg.sound h ht.sound, hg.present ht.present, fun s => ?_⟩
  cases s with
  | nil => simp [handlerAt?, hg.handler]
  | cons a s =>
    rw [hg.handlerAt?_cons]
    by_cases ha : a = text
    · subst ha
      simpa [Node.handlerAt?_cons] using ht.handled s
    · simp [ha]

end Grown

theorem took_of_ok (h : node.Sound) (hok : (Node.add path handler segments node).2 = .ok ()) :
    Took node (Node.add path handler segments node).1 segments handler := by
  induction segments generalizing node with
  | nil =>
    cases hh : node.handler with
    | none => simpa [Node.add, hh] using h.took handler
    | some old => simp [Node.add, hh] at hok
  | cons t rest ih =>
    have hf : node.Fits t rest := by
      by_contra hf
      obtain ⟨conflict, hadd, -⟩ := add_cons_error path handler h.tidy hf
      rw [hadd] at hok
      simp at hok
    obtain ⟨grown, hadd, hg⟩ := add_cons path handler h.tidy hf
    rw [hadd] at hok ⊢
    exact hg.took h (ih (h.childOrNew t) hok)

/-! ### The tree of some paths -/

/-- A tree is the one that the paths with some lists of segments make. -/
structure Holds (node : Node η) (paths : List (List String)) : Prop where
  sound : node.Sound
  present : ∀ s, (node.at? s).isSome ↔ s = [] ∨ ∃ d ∈ paths, s <+: d
  handled : ∀ s, (node.handlerAt? s).isSome ↔ s ∈ paths

theorem holds_empty : (empty : Node η).Holds [] where
  sound := sound_empty
  present s := by cases s <;> simp
  handled s := by cases s <;> simp [handlerAt?, empty, child?]

theorem Holds.add_ok_iff (h : node.Holds paths) :
    (Node.add path handler segments node).2 = .ok () ↔
      InOrder segments ∧ ∀ d ∈ paths, d ≠ segments ∧ PartWell d segments := by
  rw [Node.add_ok_iff h.sound, Option.eq_none_iff_forall_not_mem]
  refine and_congr_right fun _ => ⟨fun ⟨hnew, hparts⟩ d hd => ⟨?_, ?_⟩, fun hd => ⟨?_, fun s hs => ?_⟩⟩
  · rintro rfl
    obtain ⟨x, hx⟩ := Option.isSome_iff_exists.1 ((h.handled d).2 hd)
    exact hnew x hx
  · exact hparts d ((h.present d).2 (.inr ⟨d, hd, List.prefix_refl d⟩))
  · intro x hx
    exact (hd segments ((h.handled segments).1 (Option.isSome_iff_exists.2 ⟨x, hx⟩))).1 rfl
  · rcases (h.present s).1 hs with rfl | ⟨d, hmem, hpre⟩
    · simp
    · exact (hd d hmem).2.of_start hpre

theorem Holds.add (h : node.Holds paths) (hok : (Node.add path handler segments node).2 = .ok ()) :
    (Node.add path handler segments node).1.Holds (paths ++ [segments]) := by
  have ht := took_of_ok h.sound hok
  refine ⟨ht.sound, fun s => ?_, fun s => ?_⟩
  · rw [ht.present, h.present]
    simp [or_and_right, exists_or, or_assoc]
  · rw [ht.handled]
    by_cases hs : s = segments
    · simp [hs]
    · simp [hs, h.handled]

end Node

end Preflight.Routing

import Mathlib.Data.List.Forall2
import Mathlib.Data.List.Nodup
import Preflight.Proofs.Schema.Defects
import Preflight.Proofs.Schema.Pointer

/-!
# The order of members

Values whose objects have the same members in another order, at whatever depth. A reading is blind to
the order when it finds the same in all of them; readings that look members up by their names are
(`blind_record`).
-/

namespace Preflight.Schema

open Json

/-- The members of some objects in a value are put in another order. -/
inductive Reordered : Value → Value → Prop
  | refl (v : Value) : Reordered v v
  | trans {u v w : Value} : Reordered u v → Reordered v w → Reordered u w
  | members {members members' : Members} : (Members.names members).Nodup → members.Perm members' →
      Reordered (.object members) (.object members')
  | member {before after : Members} {name : String} {v w : Value} : Reordered v w →
      Reordered (.object (before ++ (name, v) :: after)) (.object (before ++ (name, w) :: after))
  | item {before after : List Value} {v w : Value} : Reordered v w →
      Reordered (.array (before ++ v :: after)) (.array (before ++ w :: after))

/-- What reordered values have in common at their tops. -/
inductive Matched : Value → Value → Prop
  | same (v : Value) : Matched v v
  | objects {members members' : Members} :
      (∀ name, Option.Rel Reordered (Members.get? members name) (Members.get? members' name)) →
      Matched (.object members) (.object members')
  | arrays {items items' : List Value} : List.Forall₂ Reordered items items' →
      Matched (.array items) (.array items')

variable {u v w : Value} {members members' : Members} {items items' : List Value}

theorem optionRel_refl (o : Option Value) : Option.Rel Reordered o o := by
  cases o with
  | none => exact .none
  | some v => exact .some (.refl v)

theorem optionRel_trans {a b c : Option Value} (h : Option.Rel Reordered a b)
    (h' : Option.Rel Reordered b c) : Option.Rel Reordered a c := by
  cases h with
  | none => exact h'
  | some h =>
    cases h' with
    | some h' => exact .some (h.trans h')

theorem forall₂_refl (items : List Value) : List.Forall₂ Reordered items items :=
  List.forall₂_same.mpr fun v _ => .refl v

theorem forall₂_trans {items'' : List Value} (h : List.Forall₂ Reordered items items')
    (h' : List.Forall₂ Reordered items' items'') : List.Forall₂ Reordered items items'' := by
  induction h generalizing items'' with
  | nil => exact h'
  | cons hv _ ih =>
    cases h' with
    | cons hv' h' => exact .cons (hv.trans hv') (ih h')

theorem Matched.trans (h : Matched u v) (h' : Matched v w) : Matched u w := by
  cases h with
  | same => exact h'
  | objects h =>
    cases h' with
    | same => exact .objects h
    | objects h' => exact .objects fun name => optionRel_trans (h name) (h' name)
  | arrays h =>
    cases h' with
    | same => exact .arrays h
    | arrays h' => exact .arrays (forall₂_trans h h')

theorem get?_perm (hn : (Members.names members).Nodup) (hp : members.Perm members') (name : String) :
    Members.get? members name = Members.get? members' name := by
  have hn' : (Members.names members').Nodup := (hp.map Prod.fst).nodup_iff.mp hn
  cases h : Members.get? members' name with
  | some v =>
    refine lookup_of_unique (hp.mem_iff.mpr (mem_of_get? h)) fun v' hv' => ?_
    exact congrArg Prod.snd (List.inj_on_of_nodup_map hn hv' (hp.mem_iff.mpr (mem_of_get? h)) rfl)
  | none =>
    refine List.lookup_eq_none_iff.mpr fun m hm => ?_
    exact List.lookup_eq_none_iff.mp h m (hp.mem_iff.mp hm)

theorem optionRel_member (before after : Members) (name : String) (h : Reordered v w) (n : String) :
    Option.Rel Reordered (Members.get? (before ++ (name, v) :: after) n)
      (Members.get? (before ++ (name, w) :: after) n) := by
  unfold Members.get?
  rw [List.lookup_append, List.lookup_append, List.lookup_cons, List.lookup_cons]
  cases List.lookup n before with
  | some u => exact optionRel_refl _
  | none =>
    cases n == name with
    | true => exact .some h
    | false => exact optionRel_refl _

theorem Reordered.matched (h : Reordered v w) : Matched v w := by
  induction h with
  | refl v => exact .same v
  | trans _ _ ih ih' => exact ih.trans ih'
  | members hn hp =>
    refine .objects fun name => ?_
    rw [get?_perm hn hp]
    exact optionRel_refl _
  | member h _ => exact .objects (optionRel_member _ _ _ h)
  | item h _ => exact .arrays (List.rel_append (forall₂_refl _) (.cons h (forall₂_refl _)))

/-! ### Blind readings -/

/-- A reading finds the same whatever the order of the members. -/
def Blind (reading : Defects) : Prop := ∀ v w, Reordered v w → reading v = reading w

variable {reading : Defects} {readings : List (String × Defects)}

theorem blind_of_flat (ho : ∀ members members', reading (.object members) = reading (.object members'))
    (ha : ∀ items items', reading (.array items) = reading (.array items')) : Blind reading := by
  intro v w h
  cases h.matched with
  | same => rfl
  | objects _ => exact ho _ _
  | arrays _ => exact ha _ _

theorem itemDefects_congr (hb : Blind reading) (h : List.Forall₂ Reordered items items') :
    itemDefects reading items = itemDefects reading items' := by
  unfold itemDefects
  generalize 0 = start
  induction h generalizing start with
  | nil => rfl
  | cons hv _ ih =>
    rw [List.zipIdx_cons, List.zipIdx_cons, List.flatMap_cons, List.flatMap_cons, ih]
    dsimp only
    rw [hb _ _ hv]

theorem blind_list (hb : Blind reading) : Blind (listDefects reading) := by
  intro v w h
  cases h.matched with
  | same => rfl
  | objects _ => rfl
  | arrays hi => exact itemDefects_congr hb hi

theorem memberDefects_congr {r : String × Defects} (hb : Blind r.2)
    (h : Option.Rel Reordered (Members.get? members r.1) (Members.get? members' r.1)) :
    memberDefects members r = memberDefects members' r := by
  unfold memberDefects
  generalize Members.get? members r.1 = o at h
  generalize Members.get? members' r.1 = o' at h
  cases h with
  | none => rfl
  | some h =>
    dsimp only
    rw [hb _ _ h]

theorem has_congr {name : String}
    (h : Option.Rel Reordered (Members.get? members name) (Members.get? members' name)) :
    Members.has members name = Members.has members' name := by
  show (Members.get? members name).isSome = (Members.get? members' name).isSome
  generalize Members.get? members name = o at h
  generalize Members.get? members' name = o' at h
  cases h <;> rfl

theorem blind_record (required : List String) (hb : ∀ r ∈ readings, Blind r.2) :
    Blind (recordDefects required readings) := by
  intro v w h
  cases h.matched with
  | same => rfl
  | arrays _ => rfl
  | objects hm =>
    refine congrArg₂ (· ++ ·) (congrArg _ (List.filter_congr fun name _ => ?_))
      (List.flatMap_congr fun r hr => memberDefects_congr (hb r hr) (hm r.1))
    rw [has_congr (hm name)]

end Preflight.Schema

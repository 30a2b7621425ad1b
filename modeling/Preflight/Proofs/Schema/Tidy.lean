import Preflight.Proofs.Schema.LocalReferences

/-!
# Tidy documents

A value is tidy when no object in it, at whatever depth, has a member that could be an identifier or a
reference by name, and each `$ref` in it is a local one. That is more than a self-contained document
needs, but it can be checked (`selfContained_of_isTidy`).
-/

namespace Preflight.Schema

open Gateway Json Resolver

/-- Keywords of identifiers, and of references that go by names. -/
def namingKeywords : List String := ["$id", "id", "$dynamicRef", "$recursiveRef"]

/-- Whether a reference is local, and goes through no member with an identifier's name. -/
def isLocalText (ref : String) : Bool :=
  match ref.toList with
  | ['#'] => true
  | '#' :: '/' :: pointer =>
    (pointerSteps (String.ofList ('/' :: pointer))).head?.all fun step => stepName step != "$id"
  | _ => false

def isTidyMember (keyword : String) (v : Value) : Bool :=
  !namingKeywords.contains keyword &&
    match keyword, v with
    | "$ref", .string ref => isLocalText ref
    | _, _ => true

mutual

def isTidy : Value → Bool
  | .array items => areTidy items
  | .object members => areTidyMembers members
  | _ => true

def areTidy : List Value → Bool
  | [] => true
  | v :: vs => isTidy v && areTidy vs

def areTidyMembers : Members → Bool
  | [] => true
  | (keyword, v) :: rest => isTidyMember keyword v && isTidy v && areTidyMembers rest

end

variable {document v w : Value} {members : Members} {items : List Value} {d : Dialect}

theorem areTidy_iff : areTidy items = true ↔ ∀ v ∈ items, isTidy v = true := by
  induction items with
  | nil => simp [areTidy]
  | cons v vs ih => rw [areTidy, Bool.and_eq_true, ih, List.forall_mem_cons]

theorem areTidyMembers_iff : areTidyMembers members = true ↔
    ∀ m ∈ members, isTidyMember m.1 m.2 = true ∧ isTidy m.2 = true := by
  induction members with
  | nil => simp [areTidyMembers]
  | cons m rest ih =>
    obtain ⟨keyword, v⟩ := m
    rw [areTidyMembers, Bool.and_eq_true, Bool.and_eq_true, ih, List.forall_mem_cons]

theorem isTidy_mem {keyword : String} (h : isTidy (.object members) = true)
    (hm : (keyword, v) ∈ members) : isTidyMember keyword v = true ∧ isTidy v = true :=
  areTidyMembers_iff.mp h (keyword, v) hm

theorem notMem_of_isTidy {keyword : String} (h : isTidy (.object members) = true)
    (hk : keyword ∈ namingKeywords) : (keyword, v) ∉ members := by
  intro hm
  have ht := (isTidy_mem h hm).1
  unfold isTidyMember at ht
  rw [List.contains_iff_mem.mpr hk] at ht
  exact absurd ht Bool.false_ne_true

theorem id?_of_isTidy (h : isTidy v = true) (d : Dialect) : (Resource.mk d v).id? = none := by
  have hnone {keyword : String} (hk : keyword ∈ namingKeywords) : v.get? keyword = none := by
    cases v with
    | object members =>
      cases hg : (Value.object members).get? keyword with
      | none => rfl
      | some w => exact absurd (mem_of_get? hg) (notMem_of_isTidy h hk)
    | _ => rfl
  have hid : v.get? d.idKeyword = none := by
    cases d <;> exact hnone (by decide)
  unfold Resource.id? Dialect.identifier? Dialect.text?
  rw [hid]

theorem isTidy_itemAt? {index : Int} (h : ∀ v ∈ items, isTidy v = true)
    (hi : itemAt? items index = some v) : isTidy v = true := by
  unfold itemAt? at hi
  split at hi
  · split at hi
    · cases hi
    · exact h v (List.mem_of_getElem? hi)
  · exact h v (List.mem_of_getElem? hi)

theorem isTidy_stepInto {step : String} (h : isTidy v = true)
    (hs : (stepInto v step).result = .ok (some w)) : isTidy w = true := by
  unfold stepInto at hs
  dsimp only at hs
  split at hs
  · split at hs
    · exact isTidy_itemAt? (areTidy_iff.mp h) (Except.ok.inj hs)
    · cases hs
  · split at hs
    · refine isTidy_itemAt? (fun u hu => ?_) (Except.ok.inj hs)
      obtain ⟨c, -, rfl⟩ := List.mem_map.mp hu
      rfl
    · cases hs
  · exact (isTidy_mem h (mem_of_get? (Except.ok.inj hs))).2
  · cases hs

theorem isTidy_of_leads {steps : List String} (hl : Leads v steps w) (h : isTidy v = true) :
    isTidy w = true := by
  induction hl with
  | here => exact h
  | step hs _ ih => exact ih (isTidy_stepInto h hs)

theorem isTidy_of_passes {steps : List String} (hp : Passes v steps w) (h : isTidy v = true) :
    isTidy w = true := by
  induction hp with
  | next hs => exact isTidy_stepInto h hs
  | later hs _ ih => exact ih (isTidy_stepInto h hs)

theorem isTidy_of_subschema (h : isTidy (.object members) = true) (hw : Subschema members w) :
    isTidy w = true := by
  cases hw with
  | whole _ hm => exact (isTidy_mem h hm).2
  | listed _ hm hi => exact areTidy_iff.mp (isTidy_mem h hm).2 w hi
  | named _ hm hn => exact (isTidy_mem (isTidy_mem h hm).2 hn).2
  | @disallowed v type hm ht =>
    have hv := (isTidy_mem h hm).2
    have htype : isTidy type = true := by
      unfold asList at ht
      split at ht
      · exact areTidy_iff.mp hv type ht
      · rw [List.mem_singleton.mp ht]
        exact hv
    simp [isTidy, areTidyMembers, areTidy, htype, isTidyMember, namingKeywords]

theorem isTidy_of_schemaOf (h : isTidy document = true) (hs : SchemaOf document d v) :
    isTidy v = true := by
  induction hs with
  | evaluated _ => exact h
  | identified => exact h
  | part _ hw ih => exact isTidy_of_subschema ih hw
  | evaluatedPart _ _ ih => exact ih
  | identifiedPart _ ih => exact ih
  | referred _ _ hp _ =>
    cases hp with
    | whole => exact h
    | place _ hl => exact isTidy_of_leads hl h

theorem isLocal_of_isTidy {ref : String} (h : isTidy document = true) (hr : isLocalText ref = true) :
    IsLocal document ref := by
  unfold isLocalText at hr
  split at hr
  · next href =>
    have hwhole : ref = "#" := String.toList_inj.mp (href.trans rfl)
    exact hwhole ▸ .whole
  · next pointer href =>
    refine .pointer href (fun step hstep => ?_) fun d v _ hp => id?_of_isTidy (isTidy_of_passes hp h) d
    rw [Option.mem_def.mp hstep] at hr
    simpa using hr
  · cases hr

theorem selfContained_of_isTidy (h : isTidy document = true) : SelfContained document where
  anonymous d s hs := id?_of_isTidy (isTidy_of_schemaOf h hs) d
  static d members keyword v hs hk := by
    have hnaming : ∀ k ∈ ["$dynamicRef", "$recursiveRef"], k ∈ namingKeywords := by decide
    exact notMem_of_isTidy (isTidy_of_schemaOf h hs) (hnaming keyword hk)
  references d members ref hs hm := by
    have ht := (isTidy_mem (isTidy_of_schemaOf h hs) hm).1
    unfold isTidyMember at ht
    exact isLocal_of_isTidy h (Bool.and_eq_true_iff.mp ht).2

end Preflight.Schema

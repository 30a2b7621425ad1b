import Mathlib.Data.List.Forall2
import Preflight.Proofs.Gateway.Reading
import Preflight.Proofs.Schema.Required

/-!
# What keywords of draft 2020-12 find

A defect is a place in a value and the keyword that is not obeyed there. `Trace.Tells` says which
defects an evaluation comes upon, in its order, and that it comes to its end. A walk through a schema
tells what its keywords say one after another (`Walker.tells_object`); what a keyword says is a function
of the value (`Walker.Agrees`), built from the readings of its subschemas.
-/

namespace Preflight.Schema

open Json

/-- Something wrong with a value: the way to the place, and the keyword. A member that is missing is
wrong at its own place. -/
structure Defect where
  place : List Step
  keyword : String
  deriving DecidableEq, Repr

namespace Defect

def here (keyword : String) : Defect := ⟨[], keyword⟩

def missing (name : String) : Defect := ⟨[.name name], "required"⟩

/-- A defect seen from the value that a step leads away from. -/
def below (step : Step) (x : Defect) : Defect := ⟨step :: x.place, x.keyword⟩

end Defect

def defectIf (fails : Bool) (keyword : String) : List Defect := if fails then [.here keyword] else []

/-- What a finding tells of. One without a keyword counts as one of `keyword`. -/
def Finding.defect (keyword : String) (x : Finding) : Defect :=
  ⟨x.valuePath ++ (x.missing.map Step.name).toList, x.keyword.getD keyword⟩

/-! ### Readings of values -/

abbrev Defects := Value → List Defect

/-- What is wrong with a member, if there is one of the name. -/
def memberDefects (node : Members) (reading : String × Defects) : List Defect :=
  match Members.get? node reading.1 with
  | some v => (reading.2 v).map (.below (.name reading.1))
  | none => []

/-- What is wrong with the items of an array, each at its index. -/
def itemDefects (reading : Defects) (items : List Value) : List Defect :=
  items.zipIdx.flatMap fun (v, i) => (reading v).map (.below (.index i))

/-- What is wrong with an array of items that are read alike. -/
def listDefects (reading : Defects) : Defects
  | .array items => itemDefects reading items
  | _ => [.here "type"]

/-- What is wrong with an object that needs some members, and has each of some others read in its own
way. -/
def recordDefects (required : List String) (readings : List (String × Defects)) : Defects
  | .object node =>
    (required.filter fun name => !Members.has node name).map .missing ++
      readings.flatMap (memberDefects node)
  | _ => [.here "type"]

/-! ### Traces -/

variable {keyword other : String} {t : Trace} {xs ys : List Defect} {α : Type}

namespace Trace

/-- The evaluation comes to its end, and tells of some defects on the way. -/
def Tells (keyword : String) (t : Trace) (xs : List Defect) : Prop :=
  ∃ found, t.findings.result = .ok found ∧ found.map (Finding.defect keyword) = xs

theorem tells_done : Tells keyword .done [] := ⟨[], rfl, rfl⟩

theorem tells_report (x : Finding) : Tells keyword (report x) [x.defect keyword] := ⟨[x], rfl, rfl⟩

theorem Tells.followedBy {k : Unit → Trace} (ht : t.Tells keyword xs)
    (hk : (k ()).Tells keyword ys) : (t.followedBy k).Tells keyword (xs ++ ys) := by
  obtain ⟨found, hf, rfl⟩ := ht
  obtain ⟨rest, hr, rfl⟩ := hk
  exact ⟨found ++ rest, findings_followedBy.mpr ⟨found, rest, hf, hr, rfl⟩, List.map_append⟩

theorem tells_each {f : α → Trace} {g : α → List Defect} {l : List α}
    (h : ∀ a ∈ l, (f a).Tells keyword (g a)) : (each f l).Tells keyword (l.flatMap g) := by
  induction l with
  | nil => exact tells_done
  | cons a l ih =>
    obtain ⟨ha, hl⟩ := List.forall_mem_cons.mp h
    exact ha.followedBy (ih hl)

theorem Tells.map {f : Finding → Finding} {g : Defect → Defect} (ht : t.Tells keyword xs)
    (hf : ∀ x, (f x).defect other = g (x.defect keyword)) :
    (t.map f).Tells other (xs.map g) := by
  obtain ⟨found, ho, rfl⟩ := ht
  refine ⟨found.map f, findings_map.mpr ⟨found, ho, rfl⟩, ?_⟩
  rw [List.map_map, List.map_map]
  exact List.map_congr_left fun x _ => hf x

theorem Tells.after {search : Search α} {a : α} {k : α → Trace} (h : search.result = .ok a)
    (hk : (k a).Tells keyword xs) : (after search k).Tells keyword xs := by
  unfold Trace.after
  rw [h]
  induction search.events with
  | nil => exact hk
  | cons e events ih => exact ih

theorem tells_objection (fails : Bool) (message : String) :
    (ofVerdict (objection fails message)).Tells keyword (defectIf fails keyword) := by
  cases fails with
  | false => exact tells_done
  | true => exact tells_report _

end Trace

/-! ### Walks -/

namespace Walker

variable {w : Walker} {depth : Nat} {members node table : Members} {target schema : Value}
  {m : String × Value} {reading : Defects} {readings : List (String × Defects)}

/-- What a walk through a schema tells of, whatever keyword the schema is under. -/
def Tells (w : Walker) (depth : Nat) (schema target : Value) (xs : List Defect) : Prop :=
  ∀ keyword, (walk w.fetch w.formats depth .draft2020 w.frame schema target).Tells keyword xs

/-- A walk through a schema tells of what a reading finds wrong, whatever the value. -/
def Agrees (w : Walker) (depth : Nat) (schema : Value) (reading : Defects) : Prop :=
  ∀ target, w.Tells depth schema target (reading target)

def keywordTrace (w : Walker) (depth : Nat) (members : Members) (target : Value)
    (m : String × Value) : Trace :=
  match Rule.ofKeyword? .draft2020 m.1 with
  | some rule => ((w.evaluator depth).apply depth ⟨w.frame, members, target⟩ m.2 rule).map (.under m.1)
  | none => .done

def Says (w : Walker) (depth : Nat) (members : Members) (target : Value) (m : String × Value)
    (xs : List Defect) : Prop :=
  ∀ keyword, (w.keywordTrace depth members target m).Tells keyword xs

/-- What several keywords of a schema tell of, one after another. -/
def SaysEach (w : Walker) (depth : Nat) (members : Members) (target : Value) (ms : Members)
    (xs : List Defect) : Prop :=
  ∀ keyword, (Trace.each (w.keywordTrace depth members target) ms).Tells keyword xs

theorem saysEach_nil : w.SaysEach depth members target [] [] := fun _ => Trace.tells_done

theorem SaysEach.cons {ms : Members} (hm : w.Says depth members target m xs)
    (hms : w.SaysEach depth members target ms ys) :
    w.SaysEach depth members target (m :: ms) (xs ++ ys) :=
  fun keyword => (hm keyword).followedBy (hms keyword)

theorem Says.single (h : w.Says depth members target m xs) :
    w.SaysEach depth members target [m] xs := by
  rw [← List.append_nil xs]
  exact saysEach_nil.cons h

theorem tells_object (h : w.SaysEach depth members target members xs) :
    w.Tells (depth + 1) (.object members) target xs := by
  intro keyword
  unfold walk countingKeywords
  exact h keyword

theorem says_unknown (hk : Rule.ofKeyword? .draft2020 m.1 = none) :
    w.Says depth members target m [] := by
  intro keyword
  unfold keywordTrace
  rw [hk]
  exact Trace.tells_done

theorem says_of_rule {v : Value} (rule : Rule) (hk : Rule.ofKeyword? .draft2020 keyword = some rule)
    (h : ((w.evaluator depth).apply depth ⟨w.frame, members, target⟩ v rule).Tells keyword xs) :
    w.Says depth members target (keyword, v) xs := by
  intro other
  unfold keywordTrace
  dsimp only
  rw [hk, ← List.map_id xs]
  exact h.map fun _ => rfl

/-! ### Subschemas -/

/-- A subschema that changes neither the frame nor the dialect is walked in the frame around it. -/
theorem tells_descendWith (keyword : String) (hp : Plain schema) (h : w.Tells depth schema target xs)
    (i j : Option Step) :
    ((w.evaluator depth).descendWith w.frame w.resolver schema target i j).Tells keyword
      (xs.map fun x => ⟨i.toList ++ x.place, x.keyword⟩) := by
  have hi := w.inside_plain hp
  obtain ⟨members, rfl⟩ := hp.exists_members
  refine Trace.Tells.after hi ?_
  refine (h keyword).map fun x => ?_
  unfold Finding.defect Finding.below
  rw [List.append_assoc]

theorem tells_descend (hp : Plain schema) (h : w.Tells depth schema target xs) (i : Step)
    (j : Option Step) :
    ((w.evaluator depth).descend w.frame schema target (some i) j).Tells keyword
      (xs.map (.below i)) := by
  have he := w.enter_plain hp
  have hd := tells_descendWith keyword hp h (some i) j
  obtain ⟨members, rfl⟩ := hp.exists_members
  exact Trace.Tells.after he hd

theorem says_ref {ref : String} {part : Value} (hp : Plain part)
    (hl : (w.resolver.lookup w.fetch ref).result = .ok ⟨part, w.resolver⟩)
    (h : w.Tells depth part target xs) :
    w.Says depth members target ("$ref", .string ref) xs := by
  refine says_of_rule .reference (by rfl) (Trace.Tells.after hl ?_)
  have hd := tells_descendWith "$ref" hp h none none
  have hx : xs.map (fun x => (⟨(none : Option Step).toList ++ x.place, x.keyword⟩ : Defect)) = xs :=
    List.map_id xs
  rw [hx] at hd
  exact hd

/-- A schema and what reads a member of an object like it. -/
structure Reads (w : Walker) (depth : Nat) (p : String × Value) (r : String × Defects) : Prop where
  name_eq : p.1 = r.1
  plain : Plain p.2
  agrees : w.Agrees depth p.2 r.2

theorem says_properties (h : List.Forall₂ (w.Reads depth) table readings) :
    w.Says depth members (.object node) ("properties", .object table)
      (readings.flatMap (memberDefects node)) := by
  refine says_of_rule .properties (by rfl) ?_
  show Trace.Tells _ (Trace.each _ table) _
  induction h with
  | nil => exact Trace.tells_done
  | @cons p r table readings hr _ ih =>
    obtain ⟨name, schema⟩ := p
    obtain ⟨rfl, hp, ha⟩ := hr
    refine Trace.Tells.followedBy ?_ ih
    unfold memberDefects
    dsimp only
    cases Members.get? node r.1 with
    | none => exact Trace.tells_done
    | some v => exact tells_descend hp (ha v) _ _

theorem says_properties_of_ne (h : ∀ node, target ≠ .object node) :
    w.Says depth members target ("properties", .object table) [] := by
  refine says_of_rule .properties (by rfl) ?_
  cases target with
  | object node => exact absurd rfl (h node)
  | _ => exact Trace.tells_done

theorem says_items (hp : Plain schema) (hm : Members.get? members "prefixItems" = none)
    (h : w.Agrees depth schema reading) (items : List Value) :
    w.Says depth members (.array items) ("items", schema) (itemDefects reading items) := by
  refine says_of_rule .items (by rfl) ?_
  show Trace.Tells _ ((w.evaluator depth).applyItems ⟨w.frame, members, .array items⟩ schema) _
  unfold Evaluator.applyItems
  obtain ⟨table, rfl⟩ := hp.exists_members
  simp only [hm]
  cases items with
  | nil => exact Trace.tells_done
  | cons first rest => exact Trace.tells_each fun p _ => tells_descend hp (h p.1) _ _

theorem says_items_of_ne (h : ∀ items, target ≠ .array items) :
    w.Says depth members target ("items", schema) [] := by
  refine says_of_rule .items (by rfl) ?_
  show Trace.Tells _ ((w.evaluator depth).applyItems _ _) _
  unfold Evaluator.applyItems
  cases target with
  | array items => exact absurd rfl (h items)
  | _ => exact Trace.tells_done

/-! ### Assertions -/

theorem says_of_objection {v : Value} {fails : Bool} {message : String} (rule : Rule)
    (hk : Rule.ofKeyword? .draft2020 keyword = some rule)
    (h : (w.evaluator depth).apply depth ⟨w.frame, members, target⟩ v rule =
      .ofVerdict (objection fails message)) :
    w.Says depth members target (keyword, v) (defectIf fails keyword) :=
  says_of_rule rule hk (h ▸ Trace.tells_objection fails message)

theorem says_type {type : String} (holds : Bool)
    (h : isOfType .draft2020 type target = some holds) :
    w.Says depth members target ("type", .string type) (defectIf (!holds) "type") := by
  refine says_of_rule .typeIn (by rfl) ?_
  show Trace.Tells _ (.ofVerdict (checkType .draft2020 (.string type) target)) _
  have hs : hasSomeType .draft2020 target (asList (.string type)) = .ok holds := by
    simp only [asList, hasSomeType, hasType, h]
    cases holds <;> rfl
  unfold checkType
  rw [hs]
  exact Trace.tells_objection _ _

theorem says_enum (choices : List Value) :
    w.Says depth members target ("enum", .array choices)
      (defectIf (!choices.any (·.schemaEq target)) "enum") :=
  says_of_objection .oneOfValues (by rfl) rfl

theorem says_const (expected : Value) :
    w.Says depth members target ("const", expected) (defectIf (!target.schemaEq expected) "const") :=
  says_of_objection .constant (by rfl) rfl

/-- What a bound finds wrong: numbers on the wrong side of it. -/
def boundFails (fails : Number → Number → Bool) (bound : Int) (v : Value) : Bool :=
  match number? v with
  | some n => fails n (.int bound)
  | none => false

theorem tells_checkBound {fails : Number → Number → Bool} {relation : String} {bound : Int} :
    (Trace.ofVerdict (checkBound fails relation (.int bound) target)).Tells keyword
      (defectIf (boundFails fails bound target) keyword) := by
  unfold checkBound boundFails
  cases number? target with
  | none => exact Trace.tells_done
  | some n => exact Trace.tells_objection _ _

theorem says_minimum (bound : Int) :
    w.Says depth members target ("minimum", .int bound)
      (defectIf (boundFails Number.less bound target) "minimum") :=
  says_of_rule .minimum (by rfl) tells_checkBound

theorem says_maximum (bound : Int) :
    w.Says depth members target ("maximum", .int bound)
      (defectIf (boundFails (fun n b => b.less n) bound target) "maximum") :=
  says_of_rule .maximum (by rfl) tells_checkBound

theorem says_minItems_one (items : List Value) :
    w.Says depth members (.array items) ("minItems", .int 1) (defectIf items.isEmpty "minItems") := by
  have hf : (Number.int items.length).less (.int 1) = items.isEmpty := by
    cases items with
    | nil => rfl
    | cons v items =>
      have hl : ¬ (((v :: items).length : Nat) : Int) < 1 := by
        rw [List.length_cons]
        omega
      have hc : compare (((v :: items).length : Nat) : Int) 1 ≠ .lt := by
        rw [Ne, Int.compare_eq_lt]
        exact hl
      simpa [Number.less, Number.compare?] using hc
  rw [← hf]
  exact says_of_objection .minItems (by rfl) rfl

theorem says_minItems_of_ne (h : ∀ items, target ≠ .array items) {bound : Value} :
    w.Says depth members target ("minItems", bound) [] := by
  refine says_of_rule .minItems (by rfl) ?_
  cases target with
  | array items => exact absurd rfl (h items)
  | _ => exact Trace.tells_done

theorem says_pattern {pattern s : String} {found : Bool} (h : patternFound pattern s = .ok found) :
    w.Says depth members (.string s) ("pattern", .string pattern) (defectIf (!found) "pattern") := by
  refine says_of_rule .pattern (by rfl) ?_
  show Trace.Tells _ (.ofVerdict (checkPattern (.string pattern) (.string s))) _
  unfold checkPattern
  dsimp only
  rw [h]
  exact Trace.tells_objection _ _

theorem says_pattern_of_ne (h : ∀ s, target ≠ .string s) {pattern : Value} :
    w.Says depth members target ("pattern", pattern) [] := by
  refine says_of_rule .pattern (by rfl) ?_
  cases target with
  | string s => exact absurd rfl (h s)
  | _ => exact Trace.tells_done

theorem says_required (names : List String) :
    w.Says depth members (.object node) ("required", .array (names.map .string))
      ((names.filter fun name => !Members.has node name).map .missing) := by
  refine says_of_rule .required (by rfl) ⟨_, findings_applyRequired, ?_⟩
  rw [List.map_map]
  rfl

theorem says_required_of_ne (h : ∀ node, target ≠ .object node) {names : Value} :
    w.Says depth members target ("required", names) [] := by
  refine says_of_rule .required (by rfl) ?_
  show Trace.Tells _ (Evaluator.applyRequired _ _) _
  unfold Evaluator.applyRequired
  cases target with
  | object node => exact absurd rfl (h node)
  | _ => exact Trace.tells_done

/-! ### Lists and records -/

/-- A schema of arrays whose items are read alike. -/
theorem agrees_list (hp : Plain schema) (h : w.Agrees depth schema reading) :
    w.Agrees (depth + 1) (.object [("type", .string "array"), ("items", schema)])
      (listDefects reading) := by
  intro target
  refine tells_object ?_
  cases target with
  | array items =>
    show w.SaysEach _ _ _ _ ([] ++ itemDefects reading items)
    exact SaysEach.cons (says_type true (by rfl)) (says_items hp (by rfl) h items).single
  | _ => exact SaysEach.cons (says_type false (by rfl)) (says_items_of_ne (by simp)).single

theorem saysEach_append {before ms : Members}
    (hb : ∀ m ∈ before, Rule.ofKeyword? .draft2020 m.1 = none)
    (h : w.SaysEach depth members target ms xs) :
    w.SaysEach depth members target (before ++ ms) xs := by
  induction before with
  | nil => exact h
  | cons m before ih =>
    obtain ⟨hm, hb⟩ := List.forall_mem_cons.mp hb
    exact SaysEach.cons (says_unknown hm) (ih hb)

theorem saysEach_unknown {ms : Members} (h : ∀ m ∈ ms, Rule.ofKeyword? .draft2020 m.1 = none) :
    w.SaysEach depth members target ms [] := by
  rw [← List.append_nil ms]
  exact saysEach_append h saysEach_nil

theorem agrees_record (before after : Members) (names : List String)
    (hb : ∀ m ∈ before ++ after, Rule.ofKeyword? .draft2020 m.1 = none)
    (h : List.Forall₂ (w.Reads depth) table readings) :
    w.Agrees (depth + 1) (.object (before ++ ("type", .string "object") ::
        ("required", .array (names.map .string)) :: ("properties", .object table) :: after))
      (recordDefects names readings) := by
  intro target
  obtain ⟨hb, ha⟩ := List.forall_mem_append.mp hb
  refine tells_object (saysEach_append hb ?_)
  cases target with
  | object node =>
    show w.SaysEach _ _ _ _ ([] ++ (_ ++ _))
    rw [← List.append_nil (readings.flatMap (memberDefects node))]
    exact SaysEach.cons (says_type true (by rfl)) (SaysEach.cons (says_required names)
      (SaysEach.cons (says_properties h) (saysEach_unknown ha)))
  | _ =>
    exact SaysEach.cons (says_type false (by rfl)) (SaysEach.cons (says_required_of_ne (by simp))
      (SaysEach.cons (says_properties_of_ne (by simp)) (saysEach_unknown ha)))

end Walker

end Preflight.Schema

import Preflight.Gateway.Decode
import Preflight.Proofs.Results

/-!
# The values that are read as configurations

A reading succeeds on exactly the values of a grammar: `ReadableService` for the whole configuration,
`ReadableEndpoint` and `ReadableBackend` for its parts (`reads_serviceConfig`, `reads_readEndpoint`,
`reads_readBackend`). The place that a fault would name has no say in it.
-/

namespace Preflight.Gateway

open Json Text

variable {α β : Type} {node : Members} {name place : String}

/-! ### Readings that succeed -/

def Reads (r : Reading α) : Prop := ∃ a, r = .ok a

theorem reads_ok (a : α) : Reads (.ok a : Reading α) := ⟨a, rfl⟩

theorem not_reads_error (fault : ConfigFault) : ¬ Reads (.error fault : Reading α) := by
  rintro ⟨a, ha⟩
  cases ha

theorem reads_bind (r : Reading α) (f : α → Reading β) :
    Reads (r >>= f) ↔ ∃ a, r = .ok a ∧ Reads (f a) := by
  unfold Reads
  simp only [bind_ok_iff]
  exact ⟨fun ⟨b, a, ha, hf⟩ => ⟨a, ha, b, hf⟩, fun ⟨a, ha, b, hf⟩ => ⟨b, a, ha, hf⟩⟩

theorem reads_bind_of_forall {r : Reading α} {f : α → Reading β} {p : Prop}
    (h : ∀ a, Reads (f a) ↔ p) : Reads (r >>= f) ↔ Reads r ∧ p := by
  rw [reads_bind]
  constructor
  · rintro ⟨a, ha, hf⟩
    exact ⟨⟨a, ha⟩, (h a).mp hf⟩
  · rintro ⟨⟨a, ha⟩, hp⟩
    exact ⟨a, ha, (h a).mpr hp⟩

theorem reads_guard {fails : Bool} {fault : ConfigFault} {r : Reading α} :
    Reads (if fails then .error fault else r) ↔ fails = false ∧ Reads r := by
  cases fails with
  | true => exact ⟨fun h => absurd h (not_reads_error fault), fun h => nomatch h.1⟩
  | false => exact ⟨fun h => ⟨rfl, h⟩, fun h => h.2⟩

/-! ### Members -/

/-- A member, if it is there, is as asked. -/
def Optional (node : Members) (name : String) (p : Value → Prop) : Prop :=
  ∀ v, Members.get? node name = some v → p v

def IsText (v : Value) : Prop := ∃ s, v = .string s

def IsSection (v : Value) : Prop := ∃ members, v = .object members

/-- A list of elements as asked. -/
def IsList (p : Value → Prop) (v : Value) : Prop := ∃ items, v = .array items ∧ ∀ x ∈ items, p x

theorem optional_of_none {p : Value → Prop} (h : Members.get? node name = none) :
    Optional node name p := by
  intro v hv
  rw [h] at hv
  cases hv

theorem optional_iff_of_some {p : Value → Prop} {v : Value} (h : Members.get? node name = some v) :
    Optional node name p ↔ p v := by
  refine ⟨fun ho => ho v h, fun hp v' hv => ?_⟩
  rw [h] at hv
  cases hv
  exact hp

theorem exists_of_has (h : Members.has node name = true) : ∃ v, Members.get? node name = some v :=
  Option.isSome_iff_exists.mp h

theorem has_of_get? {v : Value} (h : Members.get? node name = some v) :
    Members.has node name = true := Option.isSome_iff_exists.mpr ⟨v, h⟩

theorem stringAt_ok_iff {default s : String} :
    stringAt node name place default = .ok s ↔
      Members.get? node name = none ∧ default = s ∨
        Members.get? node name = some (.string s) := by
  unfold stringAt
  cases hg : Members.get? node name with
  | none => simp
  | some v => cases v <;> simp

theorem reads_stringAt {default : String} :
    Reads (stringAt node name place default) ↔ Optional node name IsText := by
  constructor
  · rintro ⟨s, hs⟩
    rcases stringAt_ok_iff.mp hs with ⟨hn, -⟩ | hg
    · exact optional_of_none hn
    · exact (optional_iff_of_some hg).mpr ⟨s, rfl⟩
  · intro ho
    cases hg : Members.get? node name with
    | none => exact ⟨default, stringAt_ok_iff.mpr (.inl ⟨hg, rfl⟩)⟩
    | some v =>
      obtain ⟨s, rfl⟩ := ho v hg
      exact ⟨s, stringAt_ok_iff.mpr (.inr hg)⟩

theorem listAt_ok_iff {items : List Value} :
    listAt node name place = .ok items ↔
      Members.get? node name = none ∧ [] = items ∨
        Members.get? node name = some (.array items) := by
  unfold listAt
  cases hg : Members.get? node name with
  | none => simp
  | some v => cases v <;> simp

theorem exists_strings?_iff (items : List Value) :
    (∃ texts, strings? items = some texts) ↔ ∀ x ∈ items, IsText x := by
  induction items with
  | nil => simp [strings?]
  | cons v items ih =>
    rw [List.forall_mem_cons, ← ih]
    cases v with
    | string s =>
      simp only [strings?, Option.map_eq_some_iff]
      constructor
      · rintro ⟨texts, rest, hr, rfl⟩
        exact ⟨⟨s, rfl⟩, rest, hr⟩
      · rintro ⟨-, rest, hr⟩
        exact ⟨s :: rest, rest, hr, rfl⟩
    | _ =>
      refine ⟨?_, ?_⟩
      · rintro ⟨texts, ht⟩
        cases ht
      · rintro ⟨⟨s, hs⟩, -⟩
        cases hs

theorem reads_hostsAt : Reads (hostsAt node place) ↔ Optional node "host" (IsList IsText) := by
  unfold hostsAt
  rw [reads_bind]
  constructor
  · rintro ⟨items, hl, hr⟩
    cases ht : strings? items with
    | none =>
      rw [ht] at hr
      exact absurd hr (not_reads_error _)
    | some texts =>
      rcases listAt_ok_iff.mp hl with ⟨hn, -⟩ | hg
      · exact optional_of_none hn
      · exact (optional_iff_of_some hg).mpr ⟨items, rfl, (exists_strings?_iff items).mp ⟨texts, ht⟩⟩
  · intro ho
    cases hg : Members.get? node "host" with
    | none => exact ⟨[], listAt_ok_iff.mpr (.inl ⟨hg, rfl⟩), reads_ok []⟩
    | some v =>
      obtain ⟨items, rfl, hi⟩ := ho v hg
      obtain ⟨texts, ht⟩ := (exists_strings?_iff items).mpr hi
      refine ⟨items, listAt_ok_iff.mpr (.inr hg), ?_⟩
      rw [ht]
      exact reads_ok texts

theorem reads_extraAt : Reads (extraAt node place) ↔ Optional node "extra_config" IsSection := by
  unfold extraAt
  cases hg : Members.get? node "extra_config" with
  | none => exact ⟨fun _ => optional_of_none hg, fun _ => reads_ok _⟩
  | some v =>
    rw [optional_iff_of_some hg]
    cases v with
    | object members => exact ⟨fun _ => ⟨members, rfl⟩, fun _ => reads_ok _⟩
    | _ =>
      refine ⟨fun h => absurd h (not_reads_error _), ?_⟩
      rintro ⟨members, hm⟩
      cases hm

theorem reads_of_object {v : Value} {r : Members → Reading α} {p : Members → Prop}
    (h : ∀ node, Reads (r node) ↔ p node) :
    Reads (asObject place v >>= r) ↔ ∃ node, v = .object node ∧ p node := by
  rw [reads_bind]
  constructor
  · rintro ⟨node, hv, hr⟩
    cases v with
    | object members =>
      cases hv
      exact ⟨node, rfl, (h node).mp hr⟩
    | _ => cases hv
  · rintro ⟨node, rfl, hp⟩
    exact ⟨node, rfl, (h node).mpr hp⟩

/-! ### Backends -/

/-- The members of a backend as the reading needs them. -/
structure ReadableBackend (path : String) (node : Members) : Prop where
  urlPattern : ∃ s, Members.get? node "url_pattern" = some (.string s) ∧
    ∀ p ∈ Routing.params s, p ∈ Routing.params path
  hosts : Optional node "host" (IsList IsText)
  method : Optional node "method" IsText
  extra : Optional node "extra_config" IsSection

theorem find?_undeclared_eq_none (names known : List String) :
    (names.find? fun p => !known.contains p) = none ↔ ∀ p ∈ names, p ∈ known := by
  rw [List.find?_eq_none]
  refine forall₂_congr fun p _ => ?_
  rw [Bool.not_eq_true, Bool.not_eq_false', List.contains_iff_mem]

theorem reads_readBackend (path place : String) (v : Value) :
    Reads (readBackend path place v) ↔ ∃ node, v = .object node ∧ ReadableBackend path node := by
  refine reads_of_object fun node => ?_
  cases hg : Members.get? node "url_pattern" with
  | none =>
    have hh : Members.has node "url_pattern" = false := Option.isSome_eq_false_iff.mpr
      (Option.isNone_iff_eq_none.mpr hg)
    rw [hh]
    refine ⟨fun h => absurd h (not_reads_error _), fun h => ?_⟩
    obtain ⟨s, hs, -⟩ := h.urlPattern
    rw [hg] at hs
    cases hs
  | some u =>
    rw [has_of_get? hg]
    show Reads (stringAt node "url_pattern" place "" >>= _) ↔ _
    rw [reads_bind]
    constructor
    · rintro ⟨s, hs, hr⟩
      have hs : Members.get? node "url_pattern" = some (.string s) := by
        rcases stringAt_ok_iff.mp hs with ⟨hn, -⟩ | hs
        · rw [hg] at hn
          cases hn
        · exact hs
      cases hf : (Routing.params s).find? fun p => !(Routing.params path).contains p with
      | some p =>
        rw [hf] at hr
        exact absurd hr (not_reads_error _)
      | none =>
        rw [hf] at hr
        simp only [reads_bind] at hr
        obtain ⟨hosts, hh, method, hm, extra, hx, -⟩ := hr
        exact ⟨⟨s, hs, (find?_undeclared_eq_none _ _).mp hf⟩, reads_hostsAt.mp ⟨hosts, hh⟩,
          reads_stringAt.mp ⟨method, hm⟩, reads_extraAt.mp ⟨extra, hx⟩⟩
    · rintro ⟨⟨s, hs, hp⟩, hh, hm, hx⟩
      refine ⟨s, stringAt_ok_iff.mpr (.inr hs), ?_⟩
      rw [(find?_undeclared_eq_none _ _).mpr hp]
      obtain ⟨hosts, hh⟩ := reads_hostsAt.mpr hh
      obtain ⟨method, hm⟩ := reads_stringAt.mpr hm
      obtain ⟨extra, hx⟩ := reads_extraAt.mpr hx
      simp only [reads_bind]
      exact ⟨hosts, hh, method, hm, extra, hx, reads_ok _⟩

theorem reads_readEach {read : String → Value → Reading α} {p : Value → Prop}
    (h : ∀ place v, Reads (read place v) ↔ p v) (place : String) (i : Nat) (vs : List Value) :
    Reads (readEach read place i vs) ↔ ∀ v ∈ vs, p v := by
  induction vs generalizing i with
  | nil => exact ⟨fun _ v hv => absurd hv List.not_mem_nil, fun _ => reads_ok []⟩
  | cons v vs ih =>
    rw [readEach, List.forall_mem_cons, ← ih (i + 1), ← h s!"{place}[{i}]" v]
    refine reads_bind_of_forall fun first => ?_
    rw [reads_bind]
    constructor
    · rintro ⟨rest, hr, -⟩
      exact ⟨rest, hr⟩
    · rintro ⟨rest, hr⟩
      exact ⟨rest, hr, reads_ok _⟩

/-! ### Endpoints -/

/-- A text whose upper case is one of the methods. -/
def IsMethodName (v : Value) : Prop := ∃ s, v = .string s ∧ upper s ∈ methods

/-- The members of an endpoint as the reading needs them. -/
structure ReadableEndpoint (node : Members) : Prop where
  method : Optional node "method" IsMethodName
  timeout : Optional node "timeout" IsText
  extra : Optional node "extra_config" IsSection
  backends : ∃ path items, Members.get? node "endpoint" = some (.string path) ∧ path ≠ "" ∧
    Members.get? node "backend" = some (.array items) ∧ items ≠ [] ∧
      ∀ v ∈ items, ∃ node, v = .object node ∧ ReadableBackend path node

theorem methodName_iff (node : Members) (place : String) :
    (∃ s, stringAt node "method" place defaultMethod = .ok s ∧ upper s ∈ methods) ↔
      Optional node "method" IsMethodName := by
  constructor
  · rintro ⟨s, hs, hm⟩
    rcases stringAt_ok_iff.mp hs with ⟨hn, -⟩ | hg
    · exact optional_of_none hn
    · exact (optional_iff_of_some hg).mpr ⟨s, rfl, hm⟩
  · intro ho
    cases hg : Members.get? node "method" with
    | none =>
      have hd : upper defaultMethod ∈ methods := by decide +kernel
      exact ⟨defaultMethod, stringAt_ok_iff.mpr (.inl ⟨hg, rfl⟩), hd⟩
    | some v =>
      obtain ⟨s, rfl, hm⟩ := ho v hg
      exact ⟨s, stringAt_ok_iff.mpr (.inr hg), hm⟩

theorem reads_readEndpoint (place : String) (v : Value) :
    Reads (readEndpoint place v) ↔ ∃ node, v = .object node ∧ ReadableEndpoint node := by
  refine reads_of_object fun node => ?_
  simp only [reads_bind, reads_guard]
  constructor
  · rintro ⟨path, hp, hne, s, hs, hm, items, hi, hni, backends, hb, timeout, ht, extra, hx, -⟩
    have hne : path ≠ "" := by simpa using hne
    have hni : items ≠ [] := by simpa using hni
    have hm : upper s ∈ methods := by simpa using hm
    have hp : Members.get? node "endpoint" = some (.string path) := by
      rcases stringAt_ok_iff.mp hp with ⟨-, he⟩ | hp
      · exact absurd he.symm hne
      · exact hp
    have hi : Members.get? node "backend" = some (.array items) := by
      rcases listAt_ok_iff.mp hi with ⟨-, he⟩ | hi
      · exact absurd he.symm hni
      · exact hi
    exact ⟨(methodName_iff node place).mp ⟨s, hs, hm⟩, reads_stringAt.mp ⟨timeout, ht⟩,
      reads_extraAt.mp ⟨extra, hx⟩, path, items, hp, hne, hi, hni,
      (reads_readEach (reads_readBackend path) _ 0 items).mp ⟨backends, hb⟩⟩
  · rintro ⟨hm, ht, hx, path, items, hp, hne, hi, hni, hb⟩
    obtain ⟨s, hs, hm⟩ := (methodName_iff node place).mpr hm
    obtain ⟨timeout, ht⟩ := reads_stringAt.mpr ht
    obtain ⟨extra, hx⟩ := reads_extraAt.mpr hx
    obtain ⟨backends, hb⟩ := (reads_readEach (reads_readBackend path) s!"{place}.backend" 0 items).mpr hb
    exact ⟨path, stringAt_ok_iff.mpr (.inr hp), by simpa using hne, s, hs, by simpa using hm, items,
      listAt_ok_iff.mpr (.inr hi), by simpa using hni, backends, hb, timeout, ht, extra, hx,
      reads_ok _⟩

/-! ### Services -/

/-- A value that counts as no port or is one. -/
def IsPortNumber (v : Value) : Prop := v.isTruthy = true → ∃ n, v = .int n

/-- The members of a service as the reading needs them. -/
structure ReadableService (node : Members) : Prop where
  version : ∃ v, Members.get? node "version" = some v ∧ v.plainEq (.int supportedVersion) = true
  port : Optional node "port" IsPortNumber
  name : Optional node "name" IsText
  hosts : Optional node "host" (IsList IsText)
  timeout : Optional node "timeout" IsText
  extra : Optional node "extra_config" IsSection
  endpoints : Optional node "endpoints"
    (IsList fun v => ∃ node, v = .object node ∧ ReadableEndpoint node)

theorem reads_portAt : Reads (portAt node) ↔ Optional node "port" IsPortNumber := by
  unfold portAt
  cases hg : Members.get? node "port" with
  | none => exact ⟨fun _ => optional_of_none hg, fun _ => reads_ok _⟩
  | some v =>
    rw [optional_iff_of_some hg]
    unfold IsPortNumber
    cases ht : v.isTruthy with
    | false =>
      refine ⟨fun _ h => ?_, fun _ => ?_⟩
      · cases h
      · simp only [ht]
        exact reads_ok _
    | true =>
      simp only [ht]
      cases v with
      | int n => exact ⟨fun _ _ => ⟨n, rfl⟩, fun _ => reads_ok n⟩
      | _ =>
        refine ⟨fun h => absurd h (not_reads_error _), fun h => ?_⟩
        obtain ⟨n, hn⟩ := h trivial
        cases hn

theorem reads_versionAt :
    Reads (versionAt node) ↔
      ∃ v, Members.get? node "version" = some v ∧ v.plainEq (.int supportedVersion) = true := by
  unfold versionAt
  cases hg : Members.get? node "version" with
  | none =>
    refine ⟨fun h => absurd h (not_reads_error _), ?_⟩
    rintro ⟨v, hv, -⟩
    cases hv
  | some v =>
    show Reads (if v.plainEq (.int supportedVersion) then _ else _) ↔ _
    cases he : v.plainEq (.int supportedVersion) with
    | true => exact ⟨fun _ => ⟨v, rfl, he⟩, fun _ => reads_ok v⟩
    | false =>
      refine ⟨fun h => absurd h (not_reads_error _), ?_⟩
      rintro ⟨v', hv, h⟩
      cases hv
      rw [he] at h
      cases h

theorem reads_endpoints :
    (∃ items, listAt node "endpoints" place = .ok items ∧
      Reads (readEach readEndpoint "endpoints" 0 items)) ↔
      Optional node "endpoints" (IsList fun v => ∃ node, v = .object node ∧ ReadableEndpoint node) := by
  simp only [reads_readEach reads_readEndpoint]
  constructor
  · rintro ⟨items, hl, hi⟩
    rcases listAt_ok_iff.mp hl with ⟨hn, -⟩ | hg
    · exact optional_of_none hn
    · exact (optional_iff_of_some hg).mpr ⟨items, rfl, hi⟩
  · intro ho
    cases hg : Members.get? node "endpoints" with
    | none =>
      exact ⟨[], listAt_ok_iff.mpr (.inl ⟨hg, rfl⟩), fun v hv => absurd hv List.not_mem_nil⟩
    | some v =>
      obtain ⟨items, rfl, hi⟩ := ho v hg
      exact ⟨items, listAt_ok_iff.mpr (.inr hg), hi⟩

/-- A value is read as a configuration exactly when it is in the grammar. -/
theorem reads_serviceConfig (v : Value) :
    Reads (serviceConfig v) ↔ ∃ node, v = .object node ∧ ReadableService node := by
  cases v with
  | object node =>
    unfold serviceConfig
    simp only [reads_bind]
    constructor
    · rintro ⟨version, hv, port, hp, items, hl, name, hn, hosts, hh, timeout, ht, endpoints, he,
        extra, hx, -⟩
      exact ⟨node, rfl, reads_versionAt.mp ⟨version, hv⟩, reads_portAt.mp ⟨port, hp⟩,
        reads_stringAt.mp ⟨name, hn⟩, reads_hostsAt.mp ⟨hosts, hh⟩,
        reads_stringAt.mp ⟨timeout, ht⟩, reads_extraAt.mp ⟨extra, hx⟩,
        reads_endpoints.mp ⟨items, hl, endpoints, he⟩⟩
    · rintro ⟨node', hnode, hv, hp, hn, hh, ht, hx, he⟩
      cases hnode
      obtain ⟨version, hv⟩ := reads_versionAt.mpr hv
      obtain ⟨port, hp⟩ := reads_portAt.mpr hp
      obtain ⟨name, hn⟩ := reads_stringAt.mpr hn
      obtain ⟨hosts, hh⟩ := reads_hostsAt.mpr hh
      obtain ⟨timeout, ht⟩ := reads_stringAt.mpr ht
      obtain ⟨extra, hx⟩ := reads_extraAt.mpr hx
      obtain ⟨items, hl, endpoints, he⟩ := reads_endpoints.mpr he
      exact ⟨version, hv, port, hp, items, hl, name, hn, hosts, hh, timeout, ht, endpoints, he,
        extra, hx, reads_ok _⟩
  | _ =>
    refine ⟨fun h => absurd h (not_reads_error _), ?_⟩
    rintro ⟨node, hn, -⟩
    cases hn

end Preflight.Gateway

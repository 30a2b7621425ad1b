import Preflight.Proofs.Gateway.LintAgreement

/-!
# The grammar of configurations

A reader stops at the first fault. `serviceFaults` lists all faults of a value instead, in the order in
which the reader looks, each place judged by itself, and `configOf` says what configuration a value
stands for. A reading settles on the first fault of such a list or, if there is none, on what the value
stands for (`Settles`), and so does the reading of a whole configuration
(`settles_serviceConfig`, `serviceConfig_iff_grammar`). The version counts as a number
(`plainEq_supportedVersion_iff`).
-/

namespace Preflight.Gateway

open Decimal Json Text

variable {α β : Type}

/-! ### What a value stands for -/

def textOr (v : Value) (name default : String) : String :=
  match v.get? name with
  | some (.string s) => s
  | _ => default

def hostsOf (v : Value) : List String := (strings? (elements v "host")).getD []

def extraOf (v : Value) : Extra :=
  match v.get? "extra_config" with
  | some (.object members) => .members members
  | _ => .members []

def isGiven (v : Value) (name : String) : Bool := ((v.get? name).map Value.isTruthy).getD false

/-- The port under its name if that is a whole number other than zero, else the default. -/
def portOf (v : Value) : Int :=
  match v.get? "port" with
  | some (.int port) => if port = 0 then defaultPort else port
  | _ => defaultPort

def methodOf (v : Value) : String := upper (textOr v "method" defaultMethod)

def backendOf (v : Value) : BackendConfig :=
  ⟨textAt v "url_pattern", hostsOf v, upper (textAt v "method"), extraOf v⟩

def endpointOf (v : Value) : EndpointConfig :=
  ⟨textAt v "endpoint", methodOf v, (elements v "backend").map backendOf, textAt v "timeout", extraOf v⟩

/-- The configuration that a value stands for, with the default for all that is not given. -/
def configOf (v : Value) : ServiceConfig where
  version := (v.get? "version").getD .null
  name := textAt v "name"
  port := portOf v
  hosts := hostsOf v
  timeout := textAt v "timeout"
  debug := isGiven v "debug_endpoint"
  echo := isGiven v "echo_endpoint"
  endpoints := (elements v "endpoints").map endpointOf
  extra := extraOf v

/-! ### The faults of a value -/

def faultIf (fails : Bool) (fault : ConfigFault) : List ConfigFault := if fails then [fault] else []

def textFaults (place name : String) (v : Value) : List ConfigFault :=
  match v.get? name with
  | none | some (.string _) => []
  | some w => [.notString s!"{place}.{name}" w.typeName]

def listFaults (place name : String) (v : Value) : List ConfigFault :=
  match v.get? name with
  | none | some (.array _) => []
  | some w => [.notList s!"{place}.{name}" w.typeName]

def hostFaults (place : String) (v : Value) : List ConfigFault :=
  listFaults place "host" v ++
    faultIf (strings? (elements v "host")).isNone (.hostsNotStrings place)

def extraFaults (place : String) (v : Value) : List ConfigFault :=
  match v.get? "extra_config" with
  | none | some (.object _) => []
  | some w => [.notObject s!"{place}.extra_config" w.typeName]

def eachFaults (faults : String → Value → List ConfigFault) (place : String) :
    Nat → List Value → List ConfigFault
  | _, [] => []
  | i, v :: vs => faults s!"{place}[{i}]" v ++ eachFaults faults place (i + 1) vs

/-- The faults of an object; a value of another kind has only one. -/
def objectFaults (place : String) (faults : Value → List ConfigFault) (v : Value) : List ConfigFault :=
  match v with
  | .object _ => faults v
  | _ => [.notObject place v.typeName]

def backendFaults (path place : String) : Value → List ConfigFault :=
  objectFaults place fun v =>
    faultIf (v.get? "url_pattern").isNone (.noUrlPattern path) ++
    textFaults place "url_pattern" v ++
    ((Routing.params (textAt v "url_pattern")).filter fun p => !(Routing.params path).contains p).map
      (.undefinedParam · (textAt v "url_pattern") path) ++
    hostFaults place v ++
    textFaults place "method" v ++
    extraFaults place v

def endpointFaults (place : String) : Value → List ConfigFault :=
  objectFaults place fun v =>
    textFaults place "endpoint" v ++
    faultIf (textAt v "endpoint" == "") .noPath ++
    textFaults place "method" v ++
    faultIf (!methods.contains (methodOf v)) (.unsupportedMethod (methodOf v) (textAt v "endpoint")) ++
    listFaults place "backend" v ++
    faultIf (elements v "backend").isEmpty (.noBackends (methodOf v) (textAt v "endpoint")) ++
    eachFaults (backendFaults (textAt v "endpoint")) s!"{place}.backend" 0 (elements v "backend") ++
    textFaults place "timeout" v ++
    extraFaults place v

def versionFaults (v : Value) : List ConfigFault :=
  let version := (v.get? "version").getD .null
  faultIf (!version.plainEq (.int supportedVersion)) (.unsupportedVersion version)

def portFaults (v : Value) : List ConfigFault :=
  match v.get? "port" with
  | none | some (.int _) => []
  | some w => faultIf w.isTruthy (.portNotInteger w.typeName)

/-- All faults of a value as a configuration, in the order in which they are looked for. -/
def serviceFaults (v : Value) : List ConfigFault :=
  match v with
  | .object _ =>
    versionFaults v ++
    portFaults v ++
    listFaults "service" "endpoints" v ++
    textFaults "service" "name" v ++
    hostFaults "service" v ++
    textFaults "service" "timeout" v ++
    eachFaults endpointFaults "endpoints" 0 (elements v "endpoints") ++
    extraFaults "service" v
  | _ => [.rootNotObject]

/-! ### Readings that settle -/

/-- A reading ends with the first of some faults, or with a result if there are none. -/
def Settles (r : Reading α) (faults : List ConfigFault) (a : α) : Prop :=
  r = match faults with
    | [] => .ok a
    | fault :: _ => .error fault

variable {r : Reading α} {faults more : List ConfigFault} {a : α} {b : β} {node : Members}
  {name place path : String}

theorem Settles.ok (a : α) : Settles (.ok a) [] a := rfl

theorem Settles.bind {k : α → Reading β} (h : Settles r faults a)
    (hk : faults = [] → Settles (k a) more b) : Settles (r >>= k) (faults ++ more) b := by
  cases faults with
  | nil =>
    rw [h]
    exact hk rfl
  | cons fault faults =>
    rw [h]
    rfl

theorem Settles.guard {fails : Bool} {fault : ConfigFault} (h : fails = false → Settles r more a) :
    Settles (if fails then .error fault else r) (faultIf fails fault ++ more) a := by
  cases fails with
  | true => rfl
  | false => exact h rfl

theorem Settles.map {f : α → β} (h : Settles r faults a) : Settles (r.map f) faults (f a) := by
  cases faults with
  | nil => rw [h]; rfl
  | cons fault faults => rw [h]; rfl

/-! ### The readings of members -/

theorem get?_object : (Value.object node).get? name = Members.get? node name := rfl

theorem not_has : (!Members.has node name) = ((Value.object node).get? name).isNone :=
  Option.not_isSome _

theorem settles_stringAt (default : String) :
    Settles (stringAt node name place default) (textFaults place name (.object node))
      (textOr (.object node) name default) := by
  unfold Settles stringAt textFaults textOr
  rw [get?_object]
  cases Members.get? node name with
  | none => rfl
  | some v => cases v <;> rfl

theorem settles_textAt :
    Settles (stringAt node name place "") (textFaults place name (.object node))
      (textAt (.object node) name) := settles_stringAt ""

theorem settles_listAt :
    Settles (listAt node name place) (listFaults place name (.object node))
      (elements (.object node) name) := by
  unfold Settles listAt listFaults elements
  rw [get?_object]
  cases Members.get? node name with
  | none => rfl
  | some v => cases v <;> rfl

theorem settles_hostsAt :
    Settles (hostsAt node place) (hostFaults place (.object node)) (hostsOf (.object node)) := by
  refine settles_listAt.bind fun _ => ?_
  unfold hostsOf
  cases strings? (elements (.object node) "host") <;> rfl

theorem settles_extraAt :
    Settles (extraAt node place) (extraFaults place (.object node)) (extraOf (.object node)) := by
  unfold Settles extraAt extraFaults extraOf
  rw [get?_object]
  cases Members.get? node "extra_config" with
  | none => rfl
  | some v => cases v <;> rfl

theorem settles_versionAt :
    Settles (versionAt node) (versionFaults (.object node))
      ((Members.get? node "version").getD .null) := by
  unfold Settles versionAt versionFaults faultIf
  rw [get?_object]
  cases h : Value.plainEq ((Members.get? node "version").getD .null) (.int supportedVersion) <;>
    simp [h]

theorem settles_portAt :
    Settles (portAt node) (portFaults (.object node)) (portOf (.object node)) := by
  unfold Settles portAt portFaults portOf faultIf
  rw [get?_object]
  cases Members.get? node "port" with
  | none => rfl
  | some v =>
    cases ht : v.isTruthy with
    | false =>
      cases v with
      | int n =>
        obtain rfl : n = 0 := by simpa [Value.isTruthy] using ht
        rfl
      | _ => simp [ht]
    | true =>
      cases v with
      | int n =>
        have hn : n ≠ 0 := by simpa [Value.isTruthy] using ht
        simp [hn, ht]
      | _ => simp [ht]

theorem settles_asObject {read : Members → Reading α} {faults : Value → List ConfigFault} {v : Value}
    (h : ∀ node, v = .object node → Settles (read node) (faults v) a) :
    Settles (asObject place v >>= read) (objectFaults place faults v) a := by
  cases v with
  | object node => exact h node rfl
  | _ => rfl

theorem settles_readEach {read : String → Value → Reading α} {faults : String → Value → List ConfigFault}
    {f : Value → α} (h : ∀ place v, Settles (read place v) (faults place v) (f v)) (place : String)
    (i : Nat) (vs : List Value) :
    Settles (readEach read place i vs) (eachFaults faults place i vs) (vs.map f) := by
  induction vs generalizing i with
  | nil => exact .ok []
  | cons v vs ih =>
    rw [readEach, eachFaults, ← List.append_nil (eachFaults faults place (i + 1) vs)]
    exact (h _ v).bind fun _ => (ih (i + 1)).bind fun _ => .ok _

/-! ### The readings of the parts -/

/-- The names that a check refuses are faults, and the first of them ends the reading. -/
theorem Settles.refuse {refused : String → Bool} {fault : String → ConfigFault}
    (names : List String) (h : names.filter refused = [] → Settles r more a) :
    Settles (match names.find? refused with
      | some p => .error (fault p)
      | none => r) ((names.filter refused).map fault ++ more) a := by
  rw [← List.head?_filter]
  cases hf : names.filter refused with
  | nil => exact h hf
  | cons p rest => rfl

theorem settles_readBackend (path place : String) (v : Value) :
    Settles (readBackend path place v) (backendFaults path place v) (backendOf v) := by
  refine settles_asObject ?_
  rintro node rfl
  simp only [List.append_assoc]
  rw [not_has]
  refine Settles.guard fun _ => settles_textAt.bind fun _ => Settles.refuse _ fun _ => ?_
  rw [← List.append_nil (extraFaults _ _)]
  exact settles_hostsAt.bind fun _ => (settles_stringAt "").bind fun _ =>
    settles_extraAt.bind fun _ => .ok _

theorem settles_readEndpoint (place : String) (v : Value) :
    Settles (readEndpoint place v) (endpointFaults place v) (endpointOf v) := by
  refine settles_asObject ?_
  rintro node rfl
  simp only [List.append_assoc]
  rw [← List.append_nil (extraFaults _ _)]
  refine settles_textAt.bind fun _ => Settles.guard fun _ => (settles_stringAt _).bind fun _ =>
    Settles.guard fun _ => settles_listAt.bind fun _ => Settles.guard fun _ =>
      (settles_readEach (settles_readBackend _) _ 0 _).bind fun _ => settles_textAt.bind fun _ =>
        settles_extraAt.bind fun _ => .ok _

theorem settles_serviceConfig (v : Value) :
    Settles (serviceConfig v) (serviceFaults v) (configOf v) := by
  cases v with
  | object node =>
    simp only [serviceFaults, List.append_assoc]
    rw [← List.append_nil (extraFaults _ _)]
    exact settles_versionAt.bind fun _ => settles_portAt.bind fun _ => settles_listAt.bind fun _ =>
      settles_textAt.bind fun _ => settles_hostsAt.bind fun _ => settles_textAt.bind fun _ =>
        (settles_readEach settles_readEndpoint _ 0 _).bind fun _ => settles_extraAt.bind fun _ => .ok _
  | _ => rfl

/-! ### The grammar -/

theorem equals_int_iff (x : Binary64) (b : Int) :
    (Number.float x).equals (.int b) = true ↔ ∃ n d, x.toFraction? = some (n, d) ∧ n = b * d := by
  unfold Number.equals Number.compare? Number.compare?.against Binary64.toFraction?
  cases x with
  | finite negative m e =>
    simp only [Option.map_some]
    generalize (if negative = true then -((Binary64.ratio m e).1 : Int) else (Binary64.ratio m e).1) = k
    generalize (Binary64.ratio m e).2 = d
    have hc : (some (compareFractions b 1 k d).swap == some .eq) = true ↔ k = b * d := by
      simp [compareFractions, Ordering.swap_eq_eq, eq_comm (a := k)]
    refine hc.trans ⟨fun h => ⟨k, d, rfl, h⟩, ?_⟩
    rintro ⟨_, _, h, hb⟩
    cases h
    exact hb
  | infinite negative => cases negative <;> simp
  | nan => simp

theorem plainEq_supportedVersion_iff (v : Value) :
    v.plainEq (.int supportedVersion) = true ↔
      v = .int 3 ∨ ∃ x n d, v = .float x ∧ x.toFraction? = some (n, d) ∧ n = 3 * d := by
  cases v with
  | int n =>
    simp [Value.plainEq, Value.plainEq.numbersEqual, Value.toNumber?, Number.equals, Number.compare?,
      supportedVersion]
  | bool b =>
    cases b <;>
    simp [Value.plainEq, Value.plainEq.numbersEqual, Value.toNumber?, Number.equals, Number.compare?,
      supportedVersion]
  | float x =>
    simp [Value.plainEq, Value.plainEq.numbersEqual, Value.toNumber?, equals_int_iff, supportedVersion]
  | _ => simp [Value.plainEq]

/-- A value is read exactly when it is in the grammar, that is, when it has no fault. It is read as the
configuration it stands for, and otherwise told the first of its faults. -/
theorem serviceConfig_iff_grammar (v : Value) :
    ((∃ config, serviceConfig v = .ok config) ↔ ∃ node, v = .object node ∧ ReadableService node) ∧
    (∀ config, serviceConfig v = .ok config → config = configOf v) ∧
    ∀ fault, serviceConfig v = .error fault ↔ (serviceFaults v).head? = some fault := by
  refine ⟨reads_serviceConfig v, ?_, ?_⟩
  · intro config h
    rw [settles_serviceConfig v] at h
    cases hf : serviceFaults v with
    | nil =>
      rw [hf] at h
      exact (Except.ok.inj h).symm
    | cons fault rest =>
      rw [hf] at h
      cases h
  · intro fault
    rw [settles_serviceConfig v]
    cases serviceFaults v with
    | nil => exact ⟨nofun, nofun⟩
    | cons first rest => simp

end Preflight.Gateway

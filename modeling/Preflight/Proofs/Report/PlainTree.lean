import Preflight.Proofs.Report.Unreadable

/-!
# The tree of a configuration as it reads

A configuration's tree as it should read has fixed texts and the configuration's strings as they are
(`plainTree`). The tree of a configuration that was read does read so if its strings are shown verbatim,
nodes of sections apart; where a tag begins in a backend's method and ends in its pattern, it is missing. If
such a tag closes another one or cannot be looked up, there may be no dump (`dump_of_none_closes`).
-/

namespace Preflight.Report

open Gateway Json Routing Text

variable {screen : Screen} {v : Value} {lead : String} {level : Int} {service : ServiceConfig} {endpoint : EndpointConfig}
  {backend : BackendConfig} {tree node : LabelTree} {nodes : List LabelTree}

/-! ### Strings and labels -/

/-- The strings of a backend that a dump shows are shown verbatim. -/
structure VerbatimBackend (screen : Screen) (backend : BackendConfig) : Prop where
  urlPattern : Verbatim screen backend.urlPattern.toList
  method : Verbatim screen backend.method.toList
  hosts : ∀ host ∈ backend.hosts, Verbatim screen host.toList

/-- The strings of an endpoint that a dump shows are shown verbatim. -/
structure VerbatimEndpoint (screen : Screen) (endpoint : EndpointConfig) : Prop where
  path : Verbatim screen endpoint.path.toList
  timeout : Verbatim screen endpoint.timeout.toList
  backends : ∀ backend ∈ endpoint.backends, VerbatimBackend screen backend

/-- The strings of a configuration that a dump shows are shown verbatim, those of sections apart. -/
structure VerbatimService (screen : Screen) (service : ServiceConfig) : Prop where
  name : Verbatim screen service.name.toList
  timeout : Verbatim screen service.timeout.toList
  hosts : ∀ host ∈ service.hosts, Verbatim screen host.toList
  endpoints : ∀ endpoint ∈ service.endpoints, VerbatimEndpoint screen endpoint

theorem verbatim_orDash {s : String} (h : Verbatim screen s.toList) : Verbatim screen (orDash s).toList := by
  unfold orDash
  split
  · exact Bland.verbatim (by decide)
  · exact h

theorem verbatim_hostsFor (hs : VerbatimService screen service) (hb : VerbatimBackend screen backend) :
    ∀ host ∈ hostsFor service backend, Verbatim screen host.toList := by
  unfold hostsFor
  split
  · exact hs.hosts
  · exact hb.hosts

theorem verbatim_methodFor (hm : endpoint.method ∈ methods) (hb : VerbatimBackend screen backend) :
    Verbatim screen (methodFor endpoint backend).toList := by
  unfold methodFor
  split
  · exact (bland_methods _ hm).verbatim
  · exact hb.method

/-- No backend that a level shows has a label with a closing tag in it. -/
def NoneCloses (level : Int) (service : ServiceConfig) : Prop :=
  2 ≤ level → ∀ endpoint ∈ service.endpoints, ∀ backend ∈ endpoint.backends,
    ∀ inner, tagInLabel? endpoint backend ≠ some ('/' :: inner)

/-- No backend that a level shows has a label with a tag whose name or style cannot be looked up. -/
def NoneMisread (level : Int) (service : ServiceConfig) : Prop :=
  2 ≤ level → ∀ endpoint ∈ service.endpoints, ∀ backend ∈ endpoint.backends,
    ∀ inner m, tagInLabel? endpoint backend = some inner → ¬ TagMishap inner m

def AllReadable (level : Int) (service : ServiceConfig) : Prop :=
  2 ≤ level → ∀ endpoint ∈ service.endpoints, ∀ backend ∈ endpoint.backends, ReadableLabel endpoint backend

theorem allReadable_iff :
    AllReadable level service ↔ NoneCloses level service ∧ NoneMisread level service := by
  constructor
  · intro h
    refine ⟨fun h2 endpoint he backend hb inner hi => ?_, fun h2 endpoint he backend hb inner m hi => ?_⟩
    · exact (readable_iff.mp (h h2 endpoint he backend hb _ hi)).1 rfl
    · exact (readable_iff.mp (h h2 endpoint he backend hb _ hi)).2 m
  · rintro ⟨hc, hm⟩ h2 endpoint he backend hb inner hi
    refine readable_iff.mpr ⟨fun hslash => ?_, fun m => hm h2 endpoint he backend hb inner m hi⟩
    obtain ⟨rest, rfl⟩ := List.head?_eq_some_iff.mp hslash
    exact hc h2 endpoint he backend hb rest hi

/-! ### Plain trees -/

def plainHosts (title : String) (hosts : List String) : List LabelTree :=
  if hosts.isEmpty then [] else [.leaf .hosts (title ++ ": " ++ ", ".intercalate hosts)]

def plainBackend (service : ServiceConfig) (endpoint : EndpointConfig) (backend : BackendConfig) :
    LabelTree :=
  .node .backend (backendText endpoint backend) (plainHosts "hosts" (hostsFor service backend))

def plainEndpoint (level : Int) (service : ServiceConfig) (endpoint : EndpointConfig) : LabelTree :=
  .node .endpoint (endpoint.method ++ " " ++ endpoint.path)
    ((if endpoint.timeout == "" then [] else [.leaf .attribute ("timeout: " ++ endpoint.timeout)]) ++
      if level < 2 then [] else endpoint.backends.map (plainBackend service endpoint))

def plainAttributes (service : ServiceConfig) : List LabelTree := [
  .leaf .attribute ("version: " ++ service.version.plain),
  .leaf .attribute s!"port: {service.port}",
  .leaf .attribute ("timeout: " ++ orDash service.timeout),
  .leaf .attribute ("debug endpoint: " ++ flagText service.debug),
  .leaf .attribute ("echo endpoint: " ++ flagText service.echo)]

/-- The tree of a configuration as it should read at a level, without the nodes of sections. -/
def plainTree (level : Int) (lead : String) (service : ServiceConfig) : LabelTree :=
  .node .service (lead ++ "Service: " ++ orDash service.name)
    (plainAttributes service ++ plainHosts "default hosts" service.hosts ++
      [.node .endpoints (countLabel service) (service.endpoints.map (plainEndpoint level service))])

/-- A tree reads as another one: node by node, each label reads as the other's text. -/
inductive LabelTree.Reads (screen : Screen) : LabelTree → LabelTree → Prop
  | node {kind : NodeKind} {label text : String} {children texts : List LabelTree}
      (hl : ReadsAs screen label text) (hc : List.Forall₂ (LabelTree.Reads screen) children texts) :
      LabelTree.Reads screen (.node kind label children) (.node kind text texts)

theorem reads_leaf {kind : NodeKind} {label text : String} (h : ReadsAs screen label text) :
    (LabelTree.leaf kind label).Reads screen (.leaf kind text) := .node h .nil

theorem reads_hostsNodes {title : String} {hosts : List String} (ht : Fixed (title ++ ": ").toList)
    (h : ∀ host ∈ hosts, Verbatim screen host.toList) :
    List.Forall₂ (LabelTree.Reads screen) (hostsNodes title hosts) (plainHosts title hosts) := by
  unfold hostsNodes plainHosts
  split
  · exact .nil
  · refine .cons (reads_leaf (readsAs_escape ht ?_)) .nil
    rw [String.toList_intercalate]
    refine verbatim_intercalate fun text hm => ?_
    obtain ⟨host, hh, rfl⟩ := List.mem_map.mp hm
    exact h host hh

theorem reads_attributeNodes (hs : service.Parsed) (ht : Verbatim screen service.timeout.toList) :
    List.Forall₂ (LabelTree.Reads screen) (attributeNodes service) (plainAttributes service) := by
  have htimeout : ReadsAs screen ("timeout: " ++ escape (orDash service.timeout))
      ("timeout: " ++ orDash service.timeout) := readsAs_escape (by decide) (verbatim_orDash ht)
  exact .cons (reads_leaf (readsAs_versionLabel hs)) (.cons (reads_leaf (readsAs_portLabel service.port))
    (.cons (reads_leaf htimeout) (.cons (reads_leaf (readsAs_flagLabel (by decide) _))
      (.cons (reads_leaf (readsAs_flagLabel (by decide) _)) .nil))))

theorem extraNodes_of_lt {extra : Extra} (hl : level < 3) : extraNodes level extra = .ok [] := by
  unfold extraNodes
  rw [if_pos (by simp [hl])]

theorem reads_backendNode (hl : level < 3) (hs : VerbatimService screen service) (hm : endpoint.method ∈ methods)
    (hb : VerbatimBackend screen backend) (hn : ReadableLabel endpoint backend)
    (h : backendNode level service endpoint backend = .ok node) :
    node.Reads screen (plainBackend service endpoint backend) := by
  obtain ⟨extra, hx, h⟩ := bind_ok_iff.mp h
  cases h
  obtain rfl : extra = [] := Except.ok.inj (hx.symm.trans (extraNodes_of_lt hl))
  rw [List.append_nil]
  exact .node (readsAs_backendLabel (verbatim_methodFor hm hb) hb.urlPattern hn)
    (reads_hostsNodes (by decide) (verbatim_hostsFor hs hb))

theorem reads_of_mapM {α : Type} {f : α → Except DumpFault LabelTree} {plain : α → LabelTree} {l : List α}
    (hf : ∀ a ∈ l, ∀ node, f a = .ok node → node.Reads screen (plain a)) (h : l.mapM f = .ok nodes) :
    List.Forall₂ (LabelTree.Reads screen) nodes (l.map plain) := by
  rw [List.forall₂_map_right_iff]
  exact .flip (((List.forall₂_and_left _ _).mpr ⟨hf, forall₂_of_mapM (fun _ _ => id) h⟩).imp
    fun _ node hn => hn.1 node hn.2)

theorem reads_endpointNode (hl : level < 3) (hs : VerbatimService screen service) (hp : endpoint.Parsed)
    (he : VerbatimEndpoint screen endpoint)
    (hn : 2 ≤ level → ∀ backend ∈ endpoint.backends, ReadableLabel endpoint backend)
    (h : endpointNode level service endpoint = .ok node) :
    node.Reads screen (plainEndpoint level service endpoint) := by
  obtain ⟨extra, hx, h⟩ := bind_ok_iff.mp h
  obtain ⟨backends, hb, h⟩ := bind_ok_iff.mp h
  cases h
  obtain rfl : extra = [] := Except.ok.inj (hx.symm.trans (extraNodes_of_lt hl))
  have hbackends : List.Forall₂ (LabelTree.Reads screen) backends
      (if level < 2 then [] else endpoint.backends.map (plainBackend service endpoint)) := by
    unfold backendNodes at hb
    split at hb
    · next h2 =>
      cases hb
      rw [if_pos h2]
      exact .nil
    · next h2 =>
      rw [if_neg h2]
      exact reads_of_mapM (fun backend hm child =>
        reads_backendNode hl hs hp.method (he.backends backend hm) (hn (by omega) backend hm)) hb
  refine .node (readsAs_endpointLabel hp.method he.path) ?_
  rw [List.append_nil]
  refine List.rel_append ?_ hbackends
  split
  · exact .nil
  · exact .cons (reads_leaf (readsAs_escape (by decide) he.timeout)) .nil

theorem reads_configTree (hl : level < 3) (hp : service.Parsed) (hs : VerbatimService screen service)
    (hlead : Verbatim screen (lead ++ "Service:").toList) (hn : AllReadable level service)
    (h : configTree level lead service = .ok tree) : tree.Reads screen (plainTree level lead service) := by
  obtain ⟨extra, hx, h⟩ := bind_ok_iff.mp h
  obtain ⟨endpoints, he, h⟩ := bind_ok_iff.mp h
  cases h
  obtain rfl : extra = [] := Except.ok.inj (hx.symm.trans (extraNodes_of_lt hl))
  have hendpoints : List.Forall₂ (LabelTree.Reads screen) endpoints
      (service.endpoints.map (plainEndpoint level service)) :=
    reads_of_mapM (fun endpoint hm child => reads_endpointNode hl hs (hp.endpoints endpoint hm)
      (hs.endpoints endpoint hm) fun h2 => hn h2 endpoint hm) he
  refine .node (readsAs_serviceLabel hlead (verbatim_orDash hs.name)) ?_
  rw [List.append_nil]
  exact List.rel_append (List.rel_append (reads_attributeNodes hp hs.timeout)
    (reads_hostsNodes (by decide) hs.hosts))
    (.cons (.node (readsAs_countLabel service) hendpoints) .nil)

/-! ### Dumps of configurations that were read -/

/-- The tree of a level without the nodes of sections is that of the second level, or of a lower one. -/
theorem without_extra (h : configTree level lead service = .ok tree) :
    configTree (min level 2) lead service = .ok (tree.without (· = .extra)) := by
  have hkinds : (fun kind => hiddenAt level kind || decide (kind = .extra)) = hiddenAt (min level 2) := by
    funext kind
    cases kind with
    | extra =>
      have hl : min level 2 < 3 := by omega
      simp [hiddenAt, hl]
    | backend =>
      have hl : (min level 2 < 2) = (level < 2) := propext (by omega)
      simp [hiddenAt, hl]
    | _ => rfl
  conv => rhs; rw [← without_hiddenAt h, without_without, hkinds]
  exact configTree_without (by omega) h

theorem renderable_of_parsed (h : service.Parsed) : Renderable service :=
  ⟨h.extra, fun endpoint hm => (h.endpoints endpoint hm).extra,
    fun endpoint hm backend hb => ((h.endpoints endpoint hm).backends backend hb).extra⟩

/-- A tree of a configuration that was read cannot be drawn for one of two reasons: a tag closes another one,
or it cannot be looked up. -/
theorem cases_of_printed_error {failure : Failure MarkupFault} (hs : service.Parsed)
    (ht : configTree level lead service = .ok tree) (h : tree.printed screen = .error failure) :
    (∃ fault, failure = .fault fault) ∧ ¬ NoneCloses level service ∨
      ∃ m, failure = .mishap m ∧ ¬ NoneMisread level service ∧ ∃ part, readPart part = .error m := by
  obtain ⟨h2, endpoint, he, backend, hb, inner, hi, hf⟩ := exists_backend_of_printed_error hs ht h
  cases hf with
  | @closes fault hslash =>
    obtain ⟨rest, rfl⟩ := List.head?_eq_some_iff.mp hslash
    exact .inl ⟨⟨fault, rfl⟩, fun hn => hn h2 endpoint he backend hb rest hi⟩
  | @mishap m hm =>
    exact .inr ⟨m, rfl, fun hn => hn h2 endpoint he backend hb inner m hi hm, hm.exists_part⟩

variable (screen) in
theorem exists_printed_iff_readable (hs : service.Parsed) (ht : configTree level lead service = .ok tree) :
    (∃ text, tree.printed screen = .ok text) ↔ AllReadable level service := by
  rw [exists_printed_iff, forall_configTree Showable (fun _ h => h) hs ht]
  exact forall_congr' fun _ => forall₂_congr fun endpoint _ => forall₂_congr fun backend _ =>
    showable_backendLabel_iff

/-- A configuration that was read has a tree at each level. It is dumped only if the level shows no backend
whose label is read with a closing tag in it, and it is dumped if there is no tag either whose name or style
cannot be looked up; what makes a dump fail is one of these two, the second one by a part of a color that is
no number. If the strings of the configuration are shown verbatim, the tree reads as the plain one, which
has each backend's method and pattern as they are unless a tag begins in the one and ends in the other. -/
theorem dump_of_none_closes {config : ServiceConfig} (h : serviceConfig v = .ok config) (screen : Screen)
    (level : Int) (lead : String) : ∃ tree, configTree level lead config = .ok tree ∧
      ((∃ text, dump screen level lead config = .ok text) → NoneCloses level config) ∧
      (NoneCloses level config → NoneMisread level config → ∃ text, dump screen level lead config = .ok text) ∧
      (∀ failure, dump screen level lead config = .error failure →
        (∃ fault, failure = .fault (.markup fault)) ∧ ¬ NoneCloses level config ∨
          ∃ m, failure = .mishap m ∧ ¬ NoneMisread level config ∧ ∃ part, readPart part = .error m) ∧
      (NoneCloses level config → NoneMisread level config → Verbatim screen (lead ++ "Service:").toList →
        VerbatimService screen config →
        (tree.without (· = .extra)).Reads screen (plainTree level lead config)) ∧
      ∀ endpoint backend, backendText endpoint backend =
          "backend " ++ methodFor endpoint backend ++ " " ++ backend.urlPattern ↔
        openTag? (methodFor endpoint backend).toList = none ∨
          upToBracket? backend.urlPattern.toList = none := by
  have hp := parsed_of_serviceConfig h
  obtain ⟨tree, ht⟩ : ∃ tree, configTree level lead config = .ok tree :=
    exists_configTree lead (.inr (renderable_of_parsed hp))
  have hdump : (∃ text, dump screen level lead config = .ok text) ↔ AllReadable level config := by
    rw [← exists_printed_iff_readable screen hp ht]
    exact exists_congr fun text => by simp [dump_ok_iff, ht]
  refine ⟨tree, ht, fun hok => (allReadable_iff.mp (hdump.mp hok)).1,
    fun hn hm => hdump.mpr (allReadable_iff.mpr ⟨hn, hm⟩), fun failure hf => ?_, fun hn hm hlead hs => ?_,
    fun _ _ => backendText_eq_iff⟩
  · unfold dump at hf
    rw [ht] at hf
    obtain ⟨cause, hc, rfl⟩ := mapError_error_iff.mp hf
    rcases cases_of_printed_error hp ht hc with ⟨⟨fault, rfl⟩, hn⟩ | ⟨m, rfl, hn, hpart⟩
    · exact .inl ⟨⟨fault, rfl⟩, hn⟩
    · exact .inr ⟨m, rfl, hn, hpart⟩
  · have hl : (min level 2 < 2) = (level < 2) := propext (by omega)
    have hplain : plainTree level lead config = plainTree (min level 2) lead config := by
      unfold plainTree plainEndpoint
      simp only [hl]
    have hread : AllReadable level config := allReadable_iff.mpr ⟨hn, hm⟩
    rw [hplain]
    exact reads_configTree (by omega) hp hs hlead (fun h2 => hread (by omega)) (without_extra ht)

def bracketedValue : Value := .object [("version", .int 3), ("name", .string "[/b]"),
  ("endpoints", .array [.object [("endpoint", .string "/[#a]"), ("backend", .array
    [.object [("url_pattern", .string "/[b]/u]"), ("host", .array [.string "http://[::1]"])]])]])]

def bracketedService : ServiceConfig :=
  ⟨.int 3, "[/b]", 8080, [], "", false, false,
    [⟨"/[#a]", "GET", [⟨"/[b]/u]", ["http://[::1]"], "", .members []⟩], "", .members []⟩], .members []⟩

/-- A screen that knows one emoji. -/
def smilingScreen : Screen := ⟨80, fun name => if name = "smile".toList then some ['😄'] else none⟩

theorem dump_bracketed : serviceConfig bracketedValue = .ok bracketedService ∧
    NoneCloses 2 bracketedService ∧ NoneMisread 2 bracketedService ∧
    Verbatim smilingScreen ("" ++ "Service:").toList ∧ VerbatimService smilingScreen bracketedService ∧
    ∃ tree, configTree 2 "" bracketedService = .ok tree ∧
      (∃ text, dump smilingScreen 2 "" bracketedService = .ok text) ∧
      (tree.without (· = .extra)).Reads smilingScreen (plainTree 2 "" bracketedService) := by
  have hread : serviceConfig bracketedValue = .ok bracketedService := rfl
  have hno : ∀ endpoint ∈ bracketedService.endpoints, ∀ backend ∈ endpoint.backends,
      tagInLabel? endpoint backend = none := by decide
  have hn : NoneCloses 2 bracketedService := fun _ endpoint he backend hb inner hi => by
    rw [hno endpoint he backend hb] at hi
    cases hi
  have hm : NoneMisread 2 bracketedService := fun _ endpoint he backend hb inner m hi => by
    rw [hno endpoint he backend hb] at hi
    cases hi
  have hs : VerbatimService smilingScreen bracketedService := by
    refine ⟨by decide, by decide, by decide, List.forall_mem_singleton.mpr ⟨by decide, by decide,
      List.forall_mem_singleton.mpr ⟨by decide, by decide, by decide⟩⟩⟩
  have hlead : Verbatim smilingScreen ("" ++ "Service:").toList := by decide
  obtain ⟨tree, ht, -, hdump, -, hreads, -⟩ := dump_of_none_closes hread smilingScreen 2 ""
  exact ⟨hread, hn, hm, hlead, hs, tree, ht, hdump hn hm, hreads hn hm hlead hs⟩

/-- A configuration with a backend whose method opens a closing tag and whose pattern ends it. -/
def crossingValue : Value := .object [("version", .int 3), ("host", .array [.string "http://h"]),
  ("endpoints", .array [.object [("endpoint", .string "/a"), ("backend", .array
    [.object [("url_pattern", .string "/u]"), ("method", .string "[/")]])]])]

def crossingService : ServiceConfig :=
  ⟨.int 3, "", 8080, ["http://h"], "", false, false,
    [⟨"/a", "GET", [⟨"/u]", [], "[/", .members []⟩], "", .members []⟩], .members []⟩

theorem dump_crossing : serviceConfig crossingValue = .ok crossingService ∧
    dump smilingScreen 2 "" crossingService = .error (.fault (.markup (.unmatched "[/ /u]" 8))) :=
  ⟨rfl, by decide +kernel⟩

end Preflight.Report

import Preflight.Proofs.Report.Crossing
import Preflight.Proofs.Report.Legible
import Preflight.Proofs.Report.Nodes

/-!
# What the labels of a dump read

The strings of a configuration are escaped one by one. A label can be shown whatever these strings are,
and reads as its fixed text with the strings in it if they are shown verbatim (`ReadsAs`), unless it is that
of a backend whose method opens a tag that its pattern ends (`showable_backendLabel_iff`,
`backendText_eq_iff`). So whether the tree of a configuration that was read can be shown is up to the labels
of its backends (`forall_configTree`).
-/

namespace Preflight.Report

open Gateway Json Routing Text

variable {screen : Screen} {label : String} {s t : List Char} {opened : List (List Char)} {level : Int}
  {service : ServiceConfig} {endpoint : EndpointConfig} {backend : BackendConfig} {tree node : LabelTree}
  {nodes : List LabelTree}

/-! ### Shapes of labels -/

/-- A label that is shown on a single line, with a text. -/
structure ReadsAs (screen : Screen) (label text : String) : Prop where
  shown : showMarkup screen label.toList = .ok text.toList
  line : shownLines text.toList = [text.toList]

theorem showMarkup_of_shown? {signs : List Sign} (h : shown? [] (markupPieces s) = some signs) :
    showMarkup screen s = .ok (withEmoji screen 0 signs) :=
  map_ok_iff.mpr ⟨signs, readMarkup_ok_iff.mpr h, rfl⟩

theorem showable_iff : Showable label ↔ (shown? [] (markupPieces label.toList)).isSome = true := by
  rw [Option.isSome_iff_exists]
  exact exists_congr fun _ => readMarkup_ok_iff

theorem readsAs_of_signs {signs : List Sign} {text : String}
    (h : shown? [] (markupPieces label.toList) = some signs) (hs : letters signs = text.toList)
    (hl : Legible text.toList) (hc : CodelessSigns screen signs) : ReadsAs screen label text := by
  refine ⟨?_, hl.shownLines_eq⟩
  rw [showMarkup_of_shown? h, withEmoji_eq_letters hc, List.drop_zero, hs]

theorem readsAs_of_verbatim {text : String} (h : spelled? [] (markupPieces label.toList) = some text.toList)
    (hv : Verbatim screen text.toList) : ReadsAs screen label text := by
  obtain ⟨signs, hs, hl⟩ := Option.map_eq_some_iff.mp h
  exact readsAs_of_signs hs hl hv.legible (codelessSigns_of_letters (hl ▸ hv.codeless))

theorem shown?_fixed (hs : Tagless s) (t : List Char) :
    shown? opened (markupPieces (s ++ t)) =
      (shown? opened (markupPieces t)).map (s.map Sign.char ++ ·) := by
  rw [markupPieces, scanMarkup_tagless hs, shown?_tagless hs]
  rfl

theorem spelled?_fixed (hs : Tagless s) (t : List Char) :
    spelled? opened (markupPieces (s ++ t)) = (spelled? opened (markupPieces t)).map (s ++ ·) := by
  rw [markupPieces, scanMarkup_tagless hs, spelled?_tagless hs]
  rfl

theorem isSome_shown?_fixed (hs : Tagless s) (t : List Char) :
    (shown? opened (markupPieces (s ++ t))).isSome = (shown? opened (markupPieces t)).isSome := by
  rw [shown?_fixed hs, Option.isSome_map]

theorem toList_escape (s : String) : (escape s).toList = escapeChars s.toList := String.toList_ofList

theorem showable_escape {fixed : String} (hf : Tagless fixed.toList) (s : String) :
    Showable (fixed ++ escape s) := by
  rw [showable_iff, String.toList_append, isSome_shown?_fixed hf, toList_escape]
  exact isSome_shown?_inert (inert_escapeChars _)

theorem readsAs_escape {fixed s : String} (hf : Fixed fixed.toList) (hs : Verbatim screen s.toList) :
    ReadsAs screen (fixed ++ escape s) (fixed ++ s) := by
  refine readsAs_of_verbatim ?_ ?_
  · rw [String.toList_append, spelled?_fixed hf.quiet.1, toList_escape,
      spelled?_escaped hs.legible.noBackslash, String.toList_append]
    rfl
  · rw [String.toList_append]
    exact hf.verbatim_append hs

theorem spelled?_plain (h : Tagless s) : spelled? [] (markupPieces s) = some s := by
  have hs : spelled? [] (markupPieces (s ++ [])) = (spelled? [] (markupPieces [])).map (s ++ ·) :=
    spelled?_fixed h []
  rw [List.append_nil] at hs
  rw [hs]
  exact congrArg some (List.append_nil _)

theorem showable_plain (h : Tagless label.toList) : Showable label := by
  obtain ⟨signs, hsigns, -⟩ := Option.map_eq_some_iff.mp (spelled?_plain h)
  exact ⟨signs, readMarkup_ok_iff.mpr hsigns⟩

theorem showable_bland {fixed s : String} (hf : Tagless fixed.toList) (hs : Bland s.toList) :
    Showable (fixed ++ s) := by
  refine showable_plain ?_
  rw [String.toList_append]
  exact List.forall_mem_append.mpr ⟨hf, hs.1.1⟩

theorem readsAs_bland {fixed s : String} (hf : Fixed fixed.toList) (hs : Bland s.toList) :
    ReadsAs screen (fixed ++ s) (fixed ++ s) := by
  refine readsAs_of_verbatim (spelled?_plain ?_) ?_
  · rw [String.toList_append]
    exact (hf.quiet.append hs.1).1
  · rw [String.toList_append]
    exact hf.verbatim_append hs.verbatim

/-! ### Names in bold -/

def bold : List Char := "bold".toList

theorem styleName_bold : StyleName "b".toList bold := by constructor <;> decide +kernel

theorem isSome_bold (t : List Char) : (shown? [] (markupPieces ("[b]".toList ++ t))).isSome =
    (shown? [bold] (markupPieces t)).isSome := by
  have h : shown? [] (markupPieces ("[b]".toList ++ t)) =
      (shown? [bold] (markupPieces t)).map (.tag (some bold) :: ·) := styleName_bold.shown?_opening t
  rw [h, Option.isSome_map]

theorem spelled?_bold (t : List Char) :
    spelled? [] (markupPieces ("[b]".toList ++ t)) = spelled? [bold] (markupPieces t) :=
  styleName_bold.spelled?_opening t

theorem spelled?_boldEnd (t : List Char) :
    spelled? [bold] (markupPieces ("[/b]".toList ++ t)) = spelled? [] (markupPieces t) :=
  styleName_bold.spelled?_closing t

/-- The end of a name in bold, which may be read as plain text after an odd number of backslashes. -/
theorem isSome_boldEnd (n : Nat) (t : List Char) :
    (shown? [bold] (scanMarkup 0 n ("[/b]".toList ++ t))).isSome =
      (shown? (if n % 2 = 0 then [] else [bold]) (markupPieces t)).isSome := by
  rcases Nat.mod_two_eq_zero_or_one n with hn | hn
  · have h : shown? [bold] (scanMarkup 0 n ("[/b]".toList ++ t)) = (shown? [] (markupPieces t)).map
        ((List.replicate (n / 2) '\\').map Sign.char ++ .tag none :: ·) :=
      styleName_bold.shown?_closing hn t
    rw [h, Option.isSome_map, if_pos hn]
  · have h : shown? [bold] (scanMarkup 0 n ("[/b]".toList ++ t)) = (shown? [bold] (markupPieces t)).map
        (plainTag (n / 2) "/b".toList ++ ·) := styleName_bold.shown?_closing_odd hn t
    rw [h, Option.isSome_map, if_neg (by omega)]

/-! ### Each label -/

/-- The label of a configuration's tree, with some text at its head. -/
def serviceLabel (lead : String) (service : ServiceConfig) : String :=
  escape lead ++ "Service: [b]" ++ escape (orDash service.name) ++ "[/b]"

theorem toList_serviceLabel (lead : String) (service : ServiceConfig) :
    (serviceLabel lead service).toList = escapeChars lead.toList ++ ("Service: ".toList ++
      ("[b]".toList ++ (escapeChars (orDash service.name).toList ++ "[/b]".toList))) := by
  simp only [serviceLabel, String.toList_append, toList_escape, List.append_assoc]
  rfl

theorem showable_serviceLabel (lead : String) (service : ServiceConfig) :
    Showable (serviceLabel lead service) := by
  rw [showable_iff, toList_serviceLabel]
  have hapart : Apart lead.toList ("Service: ".toList ++
      ("[b]".toList ++ (escapeChars (orDash service.name).toList ++ "[/b]".toList))) := ⟨rfl, .inl rfl⟩
  have hapart' : Apart (orDash service.name).toList "[/b]".toList := ⟨rfl, .inl rfl⟩
  obtain ⟨n, hlead⟩ := exists_isSome_escapeChars hapart
  obtain ⟨k, hname⟩ := exists_isSome_escapeChars hapart'
  have hfirst (r : List Char) : scanMarkup 0 n ('S' :: r) =
      List.replicate n (.char '\\') ++ .char 'S' :: markupPieces r :=
    scanMarkup_plain (by decide) (fun he => absurd he (by decide)) n
  have hend : (shown? [bold] (scanMarkup 0 k ("[/b]".toList ++ []))).isSome = true := isSome_boldEnd k []
  rw [List.append_nil] at hend
  rw [hlead]
  show (shown? [] (scanMarkup 0 n ('S' :: ("ervice: ".toList ++ _)))).isSome = true
  rw [hfirst, isSome_shown?_append (inert_replicate n), isSome_shown?_char,
    isSome_shown?_fixed (by decide), isSome_bold, hname, hend]

theorem readsAs_serviceLabel {lead : String} (hlead : Verbatim screen (lead ++ "Service:").toList)
    (hname : Verbatim screen (orDash service.name).toList) :
    ReadsAs screen (serviceLabel lead service) (lead ++ "Service: " ++ orDash service.name) := by
  rw [String.toList_append] at hlead
  have hbackslash : '\\' ∉ lead.toList := fun hm =>
    hlead.legible.noBackslash (List.mem_append_left _ hm)
  refine readsAs_of_verbatim ?_ ?_
  · have hend : spelled? [bold] (markupPieces "[/b]".toList) = some [] := spelled?_boldEnd []
    rw [toList_serviceLabel, spelled?_escapeChars hbackslash ⟨rfl, .inl rfl⟩, spelled?_fixed (by decide),
      spelled?_bold, spelled?_escapeChars hname.legible.noBackslash ⟨rfl, .inl rfl⟩, hend]
    simp
  · have htext : (lead ++ "Service: " ++ orDash service.name).toList =
        (lead.toList ++ "Service:".toList) ++ ' ' :: (orDash service.name).toList := by
      simp only [String.toList_append, List.append_assoc]
      rfl
    have hblank : Legible [' '] := by decide
    rw [htext]
    exact ⟨hlead.legible.append (hblank.append hname.legible),
      (codeless_append (by decide)).mpr ⟨hlead.codeless, hname.codeless⟩⟩

theorem toList_endpointLabel (endpoint : EndpointConfig) : (endpointLabel endpoint).toList =
    "[b]".toList ++ (endpoint.method.toList ++ ("[/b]".toList ++ (" ".toList ++
      escapeChars endpoint.path.toList))) := by
  simp only [endpointLabel, String.toList_append, toList_escape, List.append_assoc]
  rfl

theorem bland_methods : ∀ method ∈ methods, Bland method.toList := by decide

theorem showable_endpointLabel (h : endpoint.method ∈ methods) : Showable (endpointLabel endpoint) := by
  have hend : (shown? [bold] (markupPieces ("[/b]".toList ++ (" ".toList ++
      escapeChars endpoint.path.toList)))).isSome = _ := isSome_boldEnd 0 _
  rw [showable_iff, toList_endpointLabel, isSome_bold, isSome_shown?_fixed (bland_methods _ h).1.1, hend,
    isSome_shown?_fixed (by decide)]
  exact isSome_shown?_inert (inert_escapeChars _)

theorem readsAs_endpointLabel (h : endpoint.method ∈ methods)
    (hpath : Verbatim screen endpoint.path.toList) :
    ReadsAs screen (endpointLabel endpoint) (endpoint.method ++ " " ++ endpoint.path) := by
  have hmethod := bland_methods _ h
  refine readsAs_of_verbatim ?_ ?_
  · rw [toList_endpointLabel, spelled?_bold, spelled?_fixed hmethod.1.1, spelled?_boldEnd,
      spelled?_fixed (by decide), spelled?_escaped hpath.legible.noBackslash]
    simp
  · have htext : (endpoint.method ++ " " ++ endpoint.path).toList =
        endpoint.method.toList ++ ' ' :: endpoint.path.toList := by
      simp only [String.toList_append, List.append_assoc]
      rfl
    have hblank : Legible [' '] := by decide
    rw [htext]
    exact ⟨hmethod.1.2.append (hblank.append hpath.legible),
      (codeless_append (by decide)).mpr ⟨hmethod.verbatim.codeless, hpath.codeless⟩⟩

/-- What is read of a backend's label. -/
def backendText (endpoint : EndpointConfig) (backend : BackendConfig) : String :=
  "backend " ++ String.ofList (readPair (methodFor endpoint backend).toList backend.urlPattern.toList)

/-- The tag that a backend's method opens and its pattern ends, if there is one that counts. -/
def tagInLabel? (endpoint : EndpointConfig) (backend : BackendConfig) : Option (List Char) :=
  crossing? (methodFor endpoint backend).toList backend.urlPattern.toList

theorem toList_backendLabel (endpoint : EndpointConfig) (backend : BackendConfig) :
    (backendLabel endpoint backend).toList = "backend ".toList ++
      (escapeChars (methodFor endpoint backend).toList ++ ' ' :: escapeChars backend.urlPattern.toList) := by
  simp only [backendLabel, String.toList_append, toList_escape, List.append_assoc]
  rfl

theorem toList_backendText (endpoint : EndpointConfig) (backend : BackendConfig) :
    (backendText endpoint backend).toList = "backend ".toList ++
      readPair (methodFor endpoint backend).toList backend.urlPattern.toList := by
  rw [backendText, String.toList_append]
  exact congrArg _ String.toList_ofList

theorem backendText_eq_iff : backendText endpoint backend =
      "backend " ++ methodFor endpoint backend ++ " " ++ backend.urlPattern ↔
    openTag? (methodFor endpoint backend).toList = none ∨ upToBracket? backend.urlPattern.toList = none := by
  rw [← readPair_eq_iff, ← String.toList_inj, toList_backendText, String.toList_append,
    String.toList_append, String.toList_append, List.append_assoc, List.append_assoc,
    List.append_cancel_left_eq]
  exact Iff.rfl

/-- A tag that can be read where no other one is open. -/
def Readable (inner : List Char) : Prop := (readTag? inner []).isSome = true

/-- A backend whose label holds no tag that cannot be read. -/
def ReadableLabel (endpoint : EndpointConfig) (backend : BackendConfig) : Prop :=
  ∀ inner, tagInLabel? endpoint backend = some inner → Readable inner

theorem showable_backendLabel_iff :
    Showable (backendLabel endpoint backend) ↔ ReadableLabel endpoint backend := by
  rw [showable_iff, toList_backendLabel, isSome_shown?_fixed (by decide), isSome_pair_iff]
  rfl

theorem legible_readPair (hs : Legible s) (ht : Legible t) : Legible (readPair s t) := by
  unfold readPair
  split
  · next before inside closed hopen _ =>
    obtain ⟨rfl, -⟩ := openTag?_eq_some_iff.mp hopen
    have hbefore : Legible before := (List.forall_mem_append.mp hs).1
    exact hbefore.append fun c hc => ht c (List.mem_of_mem_drop hc)
  · exact hs.append (Legible.append (s := [' ']) (by decide) ht)

theorem readsAs_backendLabel (hm : Verbatim screen (methodFor endpoint backend).toList)
    (hp : Verbatim screen backend.urlPattern.toList) (h : ReadableLabel endpoint backend) :
    ReadsAs screen (backendLabel endpoint backend) (backendText endpoint backend) := by
  obtain ⟨signs, hsigns, hletters, hcodeless⟩ :=
    exists_shown?_pair hm.legible.noBackslash hp.legible.noBackslash h
  have hshown : shown? [] (markupPieces (backendLabel endpoint backend).toList) =
      some ("backend ".toList.map Sign.char ++ signs) := by
    rw [toList_backendLabel, shown?_fixed (by decide), hsigns]
    rfl
  refine readsAs_of_signs hshown ?_ ?_ ?_
  · rw [letters_append, letters_map_char, hletters, toList_backendText]
  · rw [toList_backendText]
    exact Legible.append (by decide) (legible_readPair hm.legible hp.legible)
  · have hblank : (Sign.char ' ').Parts := show isBlank ' ' = true by decide
    have hbackend : Codeless screen "backend".toList := codeless_of_notMem (by decide)
    exact (codelessSigns_append hblank).mpr ⟨hbackend, hcodeless screen hm.codeless hp.codeless⟩

/-! ### The labels of a tree -/

theorem childLabels_append (a b : List LabelTree) : childLabels (a ++ b) = childLabels a ++ childLabels b := by
  induction a with
  | nil => rfl
  | cons child a ih => rw [List.cons_append, childLabels, childLabels, ih, List.append_assoc]

theorem readsAs_versionLabel (h : service.Parsed) :
    ReadsAs screen ("version: " ++ service.version.plain) ("version: " ++ service.version.plain) :=
  readsAs_bland (by decide) (bland_version h.version)

theorem readsAs_portLabel (port : Int) : ReadsAs screen s!"port: {port}" s!"port: {port}" := by
  have h : ReadsAs screen ("port: " ++ toString port) ("port: " ++ toString port) :=
    readsAs_bland (by decide) (bland_toString_int port)
  exact h

theorem bland_flagText (b : Bool) : Bland (flagText b).toList := by cases b <;> decide

theorem readsAs_flagLabel {fixed : String} (h : Fixed fixed.toList) (b : Bool) :
    ReadsAs screen (fixed ++ flagText b) (fixed ++ flagText b) :=
  readsAs_bland h (bland_flagText b)

theorem bland_countLabel (service : ServiceConfig) : Bland (countLabel service).toList := by
  show Bland (toString service.endpoints.length ++ " endpoint(s)").toList
  rw [String.toList_append]
  exact (bland_toString_nat _).append (by decide)

theorem readsAs_countLabel (service : ServiceConfig) :
    ReadsAs screen (countLabel service) (countLabel service) :=
  readsAs_of_verbatim (spelled?_plain (bland_countLabel service).1.1) (bland_countLabel service).verbatim

section holds

/-! What holds of each label that can be shown holds of all labels of a tree if it does of those of the
backends. -/

variable {holds : String → Prop}

theorem forall_node {kind : NodeKind} {children : List LabelTree} :
    (∀ l ∈ (LabelTree.node kind label children).labels, holds l) ↔
      holds label ∧ ∀ l ∈ childLabels children, holds l := by
  rw [LabelTree.labels]
  exact List.forall_mem_cons

theorem forall_childLabels {α : Type} {r : α → Prop} {l : List α}
    (h : List.Forall₂ (fun a (node : LabelTree) => (∀ label ∈ node.labels, holds label) ↔ r a) l nodes) :
    (∀ label ∈ childLabels nodes, holds label) ↔ ∀ a ∈ l, r a := by
  induction h with
  | nil => exact ⟨fun _ => List.forall_mem_nil _, fun _ => List.forall_mem_nil _⟩
  | cons hab _ ih => rw [childLabels, List.forall_mem_append, hab, ih, List.forall_mem_cons]

variable (hshown : ∀ label, Showable label → holds label)

include hshown

theorem forall_leaf {kind : NodeKind} (h : Showable label) :
    ∀ l ∈ childLabels [LabelTree.leaf kind label], holds l :=
  List.forall_mem_singleton.mpr (hshown _ h)

theorem forall_attributeNodes (h : service.Parsed) :
    ∀ label ∈ childLabels (attributeNodes service), holds label := by
  have hversion : Showable ("version: " ++ service.version.plain) :=
    showable_bland (by decide) (bland_version h.version)
  have hport : Showable ("port: " ++ toString service.port) :=
    showable_bland (by decide) (bland_toString_int service.port)
  have htimeout : Showable ("timeout: " ++ escape (orDash service.timeout)) :=
    showable_escape (by decide) _
  have hdebug : Showable ("debug endpoint: " ++ flagText service.debug) :=
    showable_bland (by decide) (bland_flagText _)
  have hecho : Showable ("echo endpoint: " ++ flagText service.echo) :=
    showable_bland (by decide) (bland_flagText _)
  exact List.forall_mem_cons.mpr ⟨hshown _ hversion, List.forall_mem_cons.mpr ⟨hshown _ hport,
    List.forall_mem_cons.mpr ⟨hshown _ htimeout, List.forall_mem_cons.mpr ⟨hshown _ hdebug,
      List.forall_mem_singleton.mpr (hshown _ hecho)⟩⟩⟩⟩

theorem forall_hostsNodes {title : String} (h : Tagless (title ++ ": ").toList) (hosts : List String) :
    ∀ label ∈ childLabels (hostsNodes title hosts), holds label := by
  unfold hostsNodes
  split
  · exact List.forall_mem_nil _
  · exact forall_leaf hshown (showable_escape h _)

theorem forall_extraNodes {extra : Extra} (h : extraNodes level extra = .ok nodes) :
    ∀ label ∈ childLabels nodes, holds label := by
  unfold extraNodes at h
  split at h
  · cases h
    exact List.forall_mem_nil _
  · cases extra with
    | members members =>
      cases h
      exact forall_leaf hshown (showable_escape (by decide) _)
    | unrenderable reason => cases h

theorem forall_backendNode (h : backendNode level service endpoint backend = .ok node) :
    (∀ label ∈ node.labels, holds label) ↔ holds (backendLabel endpoint backend) := by
  obtain ⟨extra, hx, h⟩ := bind_ok_iff.mp h
  cases h
  rw [forall_node, childLabels_append, List.forall_mem_append]
  exact and_iff_left ⟨forall_hostsNodes hshown (by decide) _, forall_extraNodes hshown hx⟩

theorem forall_endpointNode (hm : endpoint.method ∈ methods)
    (h : endpointNode level service endpoint = .ok node) : (∀ label ∈ node.labels, holds label) ↔
      (2 ≤ level → ∀ backend ∈ endpoint.backends, holds (backendLabel endpoint backend)) := by
  obtain ⟨extra, hx, h⟩ := bind_ok_iff.mp h
  obtain ⟨backends, hb, h⟩ := bind_ok_iff.mp h
  cases h
  have htimeout : ∀ label ∈ childLabels (if endpoint.timeout == "" then []
      else [LabelTree.leaf .attribute ("timeout: " ++ escape endpoint.timeout)]), holds label := by
    split
    · exact List.forall_mem_nil _
    · exact forall_leaf hshown (showable_escape (by decide) _)
  have hbackends : (∀ label ∈ childLabels backends, holds label) ↔
      (2 ≤ level → ∀ backend ∈ endpoint.backends, holds (backendLabel endpoint backend)) := by
    unfold backendNodes at hb
    split at hb
    · next hl =>
      cases hb
      exact ⟨fun _ h2 => absurd hl (by omega), fun _ => List.forall_mem_nil _⟩
    · next hl =>
      rw [forall_childLabels (forall₂_of_mapM (fun _ _ => forall_backendNode hshown) hb)]
      exact ⟨fun h _ => h, fun h => h (by omega)⟩
  rw [forall_node, childLabels_append, childLabels_append, List.forall_mem_append,
    List.forall_mem_append, hbackends]
  exact ⟨fun h => h.2.2,
    fun h => ⟨hshown _ (showable_endpointLabel hm), ⟨htimeout, forall_extraNodes hshown hx⟩, h⟩⟩

variable (holds) in
theorem forall_configTree (hs : service.Parsed) {lead : String}
    (h : configTree level lead service = .ok tree) : (∀ label ∈ tree.labels, holds label) ↔
      (2 ≤ level → ∀ endpoint ∈ service.endpoints, ∀ backend ∈ endpoint.backends,
        holds (backendLabel endpoint backend)) := by
  obtain ⟨extra, hx, h⟩ := bind_ok_iff.mp h
  obtain ⟨endpoints, he, h⟩ := bind_ok_iff.mp h
  cases h
  have hnodes : (∀ label ∈ childLabels endpoints, holds label) ↔
      (2 ≤ level → ∀ endpoint ∈ service.endpoints, ∀ backend ∈ endpoint.backends,
        holds (backendLabel endpoint backend)) := by
    have hall : List.Forall₂ (fun endpoint (node : LabelTree) =>
        (∀ label ∈ node.labels, holds label) ↔ (2 ≤ level → ∀ backend ∈ endpoint.backends,
          holds (backendLabel endpoint backend))) service.endpoints endpoints :=
      ((List.forall₂_and_left _ _).mpr ⟨hs.endpoints, forall₂_of_mapM (fun _ _ => id) he⟩).imp
        fun _ _ hn => forall_endpointNode hshown hn.1.method hn.2
    rw [forall_childLabels hall]
    exact ⟨fun h h2 endpoint hm => h endpoint hm h2, fun h endpoint hm h2 => h h2 endpoint hm⟩
  have hcount : (∀ label ∈ childLabels [.node .endpoints (countLabel service) endpoints], holds label) ↔
      ∀ label ∈ childLabels endpoints, holds label := by
    rw [childLabels, childLabels, List.append_nil, forall_node]
    exact and_iff_right (hshown _ (showable_plain (bland_countLabel service).1.1))
  rw [forall_node, childLabels_append, childLabels_append, childLabels_append, List.forall_mem_append,
    List.forall_mem_append, List.forall_mem_append]
  refine Iff.trans ⟨fun h => h.2.2,
    fun h => ⟨hshown _ (showable_serviceLabel lead service), ⟨⟨?_, ?_⟩, ?_⟩, h⟩⟩ (hcount.trans hnodes)
  · exact forall_attributeNodes hshown hs
  · exact forall_hostsNodes hshown (by decide) _
  · exact forall_extraNodes hshown hx

end holds

end Preflight.Report

import Preflight.Proofs.Schema.Compiling
import Preflight.Proofs.Schema.WalkEffects

/-!
# What registries know

A registry knows a document when it has it under its URL, at once or after it is crawled
(`Registry.Knows`). Known documents are not fetched (`Resolver.retrieve_events_known`), unknown ones
are (`Resolver.retrieve_unknown`). A registry forgets nothing: what it has a document for stays so
along every reference (`Resolver.extends_lookup`).
-/

namespace Preflight.Schema

open Gateway Json

namespace Registry

/-- A registry has a document under a URL, at once or after it is crawled. -/
def Knows (registry : Registry) (url : String) : Prop :=
  (registry.resource? url).isSome ∨
    ∃ crawled, registry.crawl = .ok crawled ∧ (crawled.resource? url).isSome

/-- Wherever one registry has a document, the other has one. -/
def Extends (registry registry' : Registry) : Prop :=
  ∀ url, (registry.resource? url).isSome → (registry'.resource? url).isSome

variable {registry registry' registry'' : Registry} {r : Resource} {uri : String}

theorem Extends.refl (registry : Registry) : registry.Extends registry := fun _ h => h

theorem Extends.trans (h : registry.Extends registry') (h' : registry'.Extends registry'') :
    registry.Extends registry'' := fun url hu => h' url (h url hu)

theorem extends_of_append {more : List (String × Resource)}
    (h : registry'.resources = more ++ registry.resources) : registry.Extends registry' := by
  intro url hu
  unfold resource? at hu ⊢
  rw [h, List.lookup_append]
  cases List.lookup url more with
  | none => exact hu
  | some r => rfl

theorem extends_add (registry : Registry) (uri : String) (r : Resource) :
    registry.Extends (registry.add uri r) := by
  have hadd : (registry.add uri r).resources =
      [(Dialect.withoutHash uri, r)] ++ registry.resources := rfl
  exact extends_of_append hadd

theorem extends_foldlM {α : Type} {f : Registry → α → Except UrlFault Registry} {l : List α}
    (hf : ∀ a ∈ l, ∀ registry registry', f registry a = .ok registry' → registry.Extends registry') :
    ∀ {registry registry'}, l.foldlM f registry = .ok registry' → registry.Extends registry' := by
  induction l with
  | nil =>
    intro registry registry' h
    cases h
    exact .refl _
  | cons a l ih =>
    intro registry registry' h
    obtain ⟨ha, hl⟩ := List.forall_mem_cons.mp hf
    rw [List.foldlM_cons] at h
    obtain ⟨next, hn, h⟩ := bind_ok_iff.mp h
    exact (ha _ _ hn).trans (ih hl h)

theorem extends_enter (depth : Nat) : ∀ {base r registry registry'},
    enter depth base r registry = .ok registry' → registry.Extends registry' := by
  induction depth with
  | zero =>
    intro base r registry registry' h
    cases h
    exact .refl _
  | succ depth ih =>
    intro base r registry registry' h
    unfold enter at h
    obtain ⟨uri, -, h⟩ := bind_ok_iff.mp h
    refine .trans ?_ (extends_foldlM (fun part _ _ _ hp => ih hp) h)
    dsimp only
    split
    · have hcons : (uri, r) :: registry.resources = [(uri, r)] ++ registry.resources := rfl
      exact extends_of_append hcons
    · exact .refl _

theorem extends_crawl (h : registry.crawl = .ok registry') : registry.Extends registry' := by
  unfold crawl at h
  have hfold := extends_foldlM (fun _ _ _ _ he => extends_enter _ he) h
  exact fun url hu => hfold url hu

theorem extends_ofUrl_crawl (h : (Search.ofUrl registry.crawl).result = .ok registry') :
    registry.Extends registry' := by
  cases hc : registry.crawl with
  | ok crawled =>
    rw [hc] at h
    cases h
    exact extends_crawl hc
  | error fault =>
    rw [hc] at h
    cases h

end Registry

namespace Resolver

variable {fetch : Fetch} {registry : Registry} {resolver : Resolver} {ref url fragment : String}

theorem events_eq_nil {ε α : Type} {x : Run ε α} (h : x.Shows fun _ => False) : x.events = [] :=
  List.eq_nil_iff_forall_not_mem.mpr h

/-! ### Retrieving -/

theorem retrieve_events_known (h : registry.Knows url) :
    (retrieve fetch registry ref url).events = [] := by
  unfold retrieve
  cases hr : registry.resource? url with
  | some r => rfl
  | none =>
    rcases h with h | ⟨crawled, hc, h⟩
    · rw [hr] at h
      cases h
    · obtain ⟨r, hk⟩ := Option.isSome_iff_exists.mp h
      dsimp only
      rw [hc]
      simp only [Search.ofUrl]
      rw [Run.bind_of_ok _ rfl]
      simp only [hk]
      rfl

theorem retrieve_unknown {crawled : Registry} (h : ¬ registry.Knows url)
    (hc : registry.crawl = .ok crawled) :
    (retrieve fetch registry ref url).events = (fetch url).events := by
  have hnone : registry.resource? url = none :=
    Option.not_isSome_iff_eq_none.mp fun hs => h (.inl hs)
  have hcrawled : crawled.resource? url = none :=
    Option.not_isSome_iff_eq_none.mp fun hs => h (.inr ⟨crawled, hc, hs⟩)
  unfold retrieve
  rw [hnone]
  dsimp only
  rw [hc]
  simp only [Search.ofUrl]
  rw [Run.bind_of_ok _ rfl]
  simp only [hcrawled]
  cases hf : (fetch url).result with
  | error fault =>
    rw [Run.bind_of_error _ (by rw [Run.mapError, hf]; rfl)]
    rfl
  | ok document =>
    rw [Run.bind_of_ok _ (mapError_ok_iff.mpr hf)]
    exact List.append_nil _

/-- A document that can be fetched is retrieved, unless the documents around it have bad identifiers. -/
theorem retrieve_resolvable {document : Value} (hf : (fetch url).result = .ok document) (k : Bool)
    (fault : ReferenceFault) :
    (retrieve fetch registry ref url).result ≠ .error (.unresolved k fault) := by
  unfold retrieve
  split
  · exact nofun
  · intro h
    rcases Run.bind_result_error_iff.mp h with h | ⟨crawled, -, h⟩
    · cases hc : registry.crawl with
      | ok crawled =>
        rw [hc] at h
        cases h
      | error fault =>
        rw [hc] at h
        cases h
    · split at h
      · cases h
      · rcases Run.bind_result_error_iff.mp h with h | ⟨document, -, h⟩
        · have hok := mapError_ok_iff (f := fun _ => Stop.unresolved true (.unknown ref)) |>.mpr hf
          exact absurd (hok.symm.trans h) nofun
        · cases h

theorem extends_retrieve {found : Registry × Resource}
    (h : (retrieve fetch registry ref url).result = .ok found) : registry.Extends found.1 := by
  unfold retrieve at h
  split at h
  · cases h
    exact .refl _
  · obtain ⟨crawled, hc, h⟩ := Run.bind_result_ok_iff.mp h
    have hcrawl := Registry.extends_ofUrl_crawl hc
    split at h
    · cases h
      exact hcrawl
    · obtain ⟨document, -, h⟩ := Run.bind_result_ok_iff.mp h
      cases h
      exact hcrawl.trans (Registry.extends_add _ _ _)

/-! ### Looking up -/

/-- What a reference does once its document is there. -/
theorem lookup_eq (ht : resolver.target ref = pure (url, fragment)) :
    lookup fetch resolver ref = retrieve fetch resolver.registry ref url >>= fun (registry, r) =>
      match fragment.toList with
      | [] => pure ⟨r.contents, resolver.moveTo registry url⟩
      | '/' :: _ =>
        follow r fragment (resolver.moveTo registry url) [] r.contents (pointerSteps fragment)
      | _ => findAnchor registry url fragment >>= fun (registry, anchor) =>
        resolveAnchor (resolver.moveTo registry url) fragment anchor := by
  unfold lookup
  rw [ht, Run.bind_of_ok _ rfl]
  rfl

theorem lookup_events (ht : resolver.target ref = pure (url, fragment)) :
    (lookup fetch resolver ref).events = (retrieve fetch resolver.registry ref url).events := by
  rw [lookup_eq ht]
  cases hr : (retrieve fetch resolver.registry ref url).result with
  | error stop => rw [Run.bind_of_error _ hr]
  | ok found =>
    rw [Run.bind_of_ok _ hr]
    refine (congrArg _ (events_eq_nil ?_)).trans (List.append_nil _)
    obtain ⟨registry, r⟩ := found
    dsimp only
    split
    · exact Run.shows_pure _
    · exact shows_follow _ _ _ _ _ _
    · exact Run.shows_bind (shows_findAnchor _ _ _) fun _ => shows_resolveAnchor _ _ _

/-- What can be fetched elsewhere has no say. -/
theorem lookup_congr {fetch' : Fetch} (ht : resolver.target ref = pure (url, fragment))
    (h : fetch url = fetch' url) : lookup fetch resolver ref = lookup fetch' resolver ref := by
  rw [lookup_eq ht, lookup_eq ht]
  unfold retrieve
  rw [h]

/-- The document of a reference without a fragment is found under its URL, if it can be fetched. -/
theorem lookup_resolvable {document : Value} (ht : resolver.target ref = pure (url, ""))
    (hf : (fetch url).result = .ok document) (k : Bool) (fault : ReferenceFault) :
    (lookup fetch resolver ref).result ≠ .error (.unresolved k fault) := by
  rw [lookup_eq ht]
  intro h
  rcases Run.bind_result_error_iff.mp h with h | ⟨_, -, h⟩
  · exact retrieve_resolvable hf k fault h
  · cases h

theorem lookup_whole_base {found : Resolved} (ht : resolver.target ref = pure (url, ""))
    (h : (lookup fetch resolver ref).result = .ok found) : found.resolver.base = url := by
  rw [lookup_eq ht] at h
  obtain ⟨_, -, h⟩ := Run.bind_result_ok_iff.mp h
  cases h
  rfl

theorem enter_registry {r : Resource} {inside : Resolver}
    (h : (resolver.enter r).result = .ok inside) : inside.registry = resolver.registry := by
  unfold enter at h
  split at h
  · cases h
    rfl
  · obtain ⟨base, -, h⟩ := Run.bind_result_ok_iff.mp h
    cases h
    rfl

theorem follow_registry {r : Resource} {pointer : String} (steps : List String) :
    ∀ {resolver walked contents found},
      (follow r pointer resolver walked contents steps).result = .ok found →
      found.resolver.registry = resolver.registry := by
  induction steps with
  | nil =>
    intro resolver walked contents found h
    cases h
    rfl
  | cons step steps ih =>
    intro resolver walked contents found h
    unfold follow at h
    obtain ⟨target, -, h⟩ := Run.bind_result_ok_iff.mp h
    cases target with
    | none => cases h
    | some target =>
      dsimp only at h
      split at h
      -- the name of the step has no say
      all_goals
        split at h
        · obtain ⟨inside, hi, h⟩ := Run.bind_result_ok_iff.mp h
          exact (ih h).trans (enter_registry hi)
        · exact ih h

theorem extends_findAnchor {name : String} {found : Registry × Anchor}
    (h : (findAnchor registry url name).result = .ok found) : registry.Extends found.1 := by
  unfold findAnchor at h
  split at h
  · cases h
    exact .refl _
  · obtain ⟨crawled, hc, h⟩ := Run.bind_result_ok_iff.mp h
    have hcrawl := Registry.extends_ofUrl_crawl hc
    split at h
    · cases h
      exact hcrawl
    · split at h
      · cases h
      · split at h
        · cases h
          exact hcrawl
        · split at h
          · cases h
          · cases h

theorem resolveAnchor_registry {name : String} {anchor : Anchor} {found : Resolved}
    (h : (resolveAnchor resolver name anchor).result = .ok found) :
    found.resolver.registry = resolver.registry := by
  unfold resolveAnchor at h
  split at h
  · obtain ⟨r, -, h⟩ := Run.bind_result_ok_iff.mp h
    obtain ⟨inside, hi, h⟩ := Run.bind_result_ok_iff.mp h
    cases h
    exact enter_registry hi
  · cases h
    rfl

/-- A registry has a document along every reference where it had one before. -/
theorem extends_lookup {found : Resolved} (h : (lookup fetch resolver ref).result = .ok found) :
    resolver.registry.Extends found.resolver.registry := by
  unfold lookup at h
  obtain ⟨⟨url, fragment⟩, -, h⟩ := Run.bind_result_ok_iff.mp h
  obtain ⟨⟨registry, r⟩, hr, h⟩ := Run.bind_result_ok_iff.mp h
  refine (extends_retrieve hr).trans ?_
  dsimp only at h
  split at h
  · cases h
    exact .refl _
  · rw [follow_registry _ h]
    exact .refl _
  · obtain ⟨⟨registry', anchor⟩, ha, h⟩ := Run.bind_result_ok_iff.mp h
    rw [resolveAnchor_registry h]
    exact extends_findAnchor ha

theorem extends_outermostRecursive (uris : List String) : ∀ {first found : Resolved},
    resolver.registry.Extends first.resolver.registry →
    (outermostRecursive fetch resolver first uris).result = .ok found →
    resolver.registry.Extends found.resolver.registry := by
  induction uris with
  | nil =>
    intro first found hf h
    cases h
    exact hf
  | cons uri uris ih =>
    intro first found hf h
    unfold outermostRecursive at h
    obtain ⟨next, hn, h⟩ := Run.bind_result_ok_iff.mp h
    split at h
    · exact ih (extends_lookup hn) h
    · cases h
      exact hf

theorem extends_lookupRecursive {found : Resolved}
    (h : (lookupRecursive fetch resolver).result = .ok found) :
    resolver.registry.Extends found.resolver.registry := by
  unfold lookupRecursive at h
  obtain ⟨first, hf, h⟩ := Run.bind_result_ok_iff.mp h
  split at h
  · exact extends_outermostRecursive _ (extends_lookup hf) h
  · cases h
    exact extends_lookup hf

end Resolver

end Preflight.Schema

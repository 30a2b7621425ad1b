import Preflight.Proofs.Source.Loading

/-!
# The hosted schema

The hosted schema of a version is the one of its release line (`releaseLine_versionMinor`). Loading it
makes one request, and succeeds only if the reply has status 200 and a body that can be decoded
(`requests_loadSchema_online`, `loadSchema_online_ok`).
-/

namespace Preflight.Source

open Json Text Url

/-- The first two of the parts of a version that dots separate, or the whole version if it has fewer. -/
inductive ReleaseLine : List Char → List Char → Prop
  | whole {version : List Char} : '.' ∉ version → ReleaseLine version version
  | pair {major minor : List Char} : '.' ∉ major → '.' ∉ minor →
      ReleaseLine (major ++ '.' :: minor) (major ++ '.' :: minor)
  | longer {major minor rest : List Char} : '.' ∉ major → '.' ∉ minor →
      ReleaseLine (major ++ '.' :: (minor ++ '.' :: rest)) (major ++ '.' :: minor)

variable {world : World} {timeout : Number} {url version : String} {v : Value}

/-! ### Its address -/

theorem releaseLine_versionMinor (version : String) :
    ReleaseLine version.toList (versionMinor version).toList := by
  have hjoin := joinWith_split '.' version.toList
  have hparts : ∀ p ∈ split '.' version.toList, '.' ∉ p := fun p hp => notMem_of_mem_split hp
  unfold versionMinor splitString
  cases h : split '.' version.toList with
  | nil => exact absurd h (split_ne_nil _ _)
  | cons major parts =>
    rw [h] at hjoin hparts
    cases parts with
    | nil =>
      have hv : major = version.toList := hjoin
      exact .whole (hv ▸ hparts major List.mem_cons_self)
    | cons minor rest =>
      have hmajor := hparts major List.mem_cons_self
      have hminor := hparts minor (List.mem_cons_of_mem _ List.mem_cons_self)
      have hline : (s!"{String.ofList major}.{String.ofList minor}").toList =
          major ++ '.' :: minor := by
        show (String.ofList major ++ "." ++ String.ofList minor).toList = _
        simp [String.toList_append]
      show ReleaseLine _ (s!"{String.ofList major}.{String.ofList minor}").toList
      rw [hline, ← hjoin]
      cases rest with
      | nil => exact .pair hmajor hminor
      | cons part rest => exact .longer hmajor hminor

/-- The address of the hosted schema can be taken apart, whatever the version. -/
theorem exists_split_online (version : String) :
    ∃ parts, splitUrl (onlineSchemaUrl version).toList = .ok parts ∧
      parts.scheme = "https".toList := by
  have hclean : ∃ rest, clean (onlineSchemaUrl version).toList =
      "https".toList ++ "://www.krakend.io/".toList ++ rest := by
    unfold onlineSchemaUrl
    exact ⟨_, by simp [clean, String.toList_append]; rfl⟩
  obtain ⟨rest, hc⟩ := hclean
  have hs : takeScheme ("https".toList ++ "://www.krakend.io/".toList ++ rest) =
      ("https".toList, "//www.krakend.io/".toList ++ rest) := by
    simp [takeScheme, cutAt, cutBefore, isSchemeChar]
  have ha : takeAuthority ("//www.krakend.io/".toList ++ rest) =
      ("www.krakend.io".toList, '/' :: rest) := by
    simp [takeAuthority, cutBefore]
  have hf : authorityFault? "www.krakend.io".toList = none := by decide +kernel
  rw [← hc] at hs
  exact exists_parts hs ha hf

/-! ### Loading it -/

theorem requests_loadHttp (world : World) (timeout : Number) (url : String) :
    ∃ r : Request, (loadHttp world timeout url).requests = [r] ∧ r.url = url := by
  unfold loadHttp
  cases world.fetch url with
  | failed reason => exact ⟨_, rfl, rfl⟩
  | response status body =>
    by_cases hs : status = 200
    · subst hs
      cases hd : decodeBytes body with
      | ok v => exact ⟨⟨url, timeout, true, true⟩, by simp [hd]; rfl, rfl⟩
      | error cause => exact ⟨⟨url, timeout, true, true⟩, by simp [hd]; rfl, rfl⟩
    · exact ⟨⟨url, timeout, false, true⟩, by simp [hs]; rfl, rfl⟩

theorem loadHttp_ok (h : (loadHttp world timeout url).result = .ok v) :
    ∃ body, world.fetch url = .response 200 body ∧ decodeBytes body = .ok v := by
  unfold loadHttp at h
  obtain ⟨_, -, h⟩ := Run.bind_result_ok_iff.mp h
  split at h
  · obtain ⟨_, -, h⟩ := Run.bind_result_ok_iff.mp h
    cases h
  · next status body hf =>
    split at h
    · next hs =>
      obtain ⟨_, -, h⟩ := Run.bind_result_ok_iff.mp h
      subst hs
      refine ⟨body, hf, ?_⟩
      cases hd : decodeBytes body with
      | ok v' =>
        rw [hd] at h
        cases h
        rfl
      | error cause =>
        rw [hd] at h
        cases h
    · obtain ⟨_, -, h⟩ := Run.bind_result_ok_iff.mp h
      cases h

theorem load_online (world : World) (version : String) :
    load world defaultLoader (onlineSchemaUrl version) =
      loadHttp world requestTimeout (onlineSchemaUrl version) := by
  obtain ⟨parts, hs, hscheme⟩ := exists_split_online version
  unfold load splitOrFail
  rw [hs, Run.bind_of_ok _ rfl]
  dsimp only
  rw [hscheme]
  rfl

theorem loadSchema_online (world : World) (version : String) :
    loadSchema world defaultLoader (.online (onlineSchemaUrl version)) =
      loadHttp world requestTimeout (onlineSchemaUrl version) >>=
        fun v => pure (onlineSchemaUrl version, v) := by
  obtain ⟨parts, hs, hscheme⟩ := exists_split_online version
  have hu : toUrl world (onlineSchemaUrl version) = .ok (onlineSchemaUrl version) := by
    unfold toUrl fileUrl?
    rw [map_shown_systemText, hs]
    dsimp only
    rw [hscheme, if_pos (by decide)]
    rfl
  unfold loadSchema
  dsimp only
  rw [hu, ← load_online]
  rfl

theorem requests_loadSchema_online (world : World) (version : String) :
    ∃ r : Request, (loadSchema world defaultLoader (.online (onlineSchemaUrl version))).requests =
      [r] ∧ r.url = onlineSchemaUrl version := by
  obtain ⟨r, hr, hu⟩ := requests_loadHttp world requestTimeout (onlineSchemaUrl version)
  refine ⟨r, ?_, hu⟩
  rw [loadSchema_online, Run.requests_eq, Run.select_bind_left fun v => Run.shows_pure _]
  exact hr

theorem loadSchema_online_ok {loaded : String × Value}
    (h : (loadSchema world defaultLoader (.online (onlineSchemaUrl version))).result = .ok loaded) :
    ∃ body, world.fetch (onlineSchemaUrl version) = .response 200 body ∧
      decodeBytes body = .ok loaded.2 := by
  rw [loadSchema_online] at h
  obtain ⟨v, hv, h⟩ := Run.bind_result_ok_iff.mp h
  cases h
  exact loadHttp_ok hv

end Preflight.Source

import Preflight.Json.Show
import Preflight.Proofs.Results
import Preflight.Proofs.Text.Percent
import Preflight.Proofs.Url.Fragment
import Preflight.Source.Loader

/-!
# Paths as URLs

A location that is no URL is the path of a file, which leads to a place; the bytes of the place are escaped
in a `file` URL. The URL comes apart into the scheme and the escaped path only (`splitUrl_fileUrl`), since
escaping leaves nothing that taking a URL apart drops or cuts at; a path from the root is read back from
its text (`ofString_text`). So the file that the URL names is the one at the location, provided that the
names on the way are text (`location_survives_url`): a byte that is none is escaped, but what is read back
is U+FFFD (`escaped_byte_lost`).
-/

namespace Preflight

open Text

/-! ### Paths from the root -/

namespace Path

/-- A name of something in a directory, not of the directory itself. -/
def IsName (name : String) : Prop := name ≠ "" ∧ name ≠ "." ∧ '/' ∉ name.toList

variable {names : List String} {s : String}

theorem toList_text_absolute : (⟨"/", names⟩ : Path).text.toList =
    '/' :: joinWith '/' (names.map String.toList) := by
  have ht : (⟨"/", names⟩ : Path).text = "/" ++ "/".intercalate names := rfl
  rw [ht, String.toList_append, String.toList_intercalate]
  exact congrArg ('/' :: ·) (intercalate_eq_joinWith '/' _)

theorem root_ofString {c : Char} {rest : List Char} (hs : s.toList = '/' :: c :: rest) (hc : c ≠ '/') :
    (ofString s).root = "/" := by
  unfold ofString
  dsimp only
  rw [hs]
  split
  · rfl
  · next he => exact absurd (List.cons.inj (List.cons.inj he).2).1 hc
  · rfl
  · next he => exact absurd rfl (he (c :: rest))

theorem names_ofString_text (h : ∀ name ∈ names, IsName name) :
    (ofString (⟨"/", names⟩ : Path).text).names = names := by
  have hsplit : splitString '/' (⟨"/", names⟩ : Path).text = "" :: if names = [] then [""] else names := by
    unfold splitString
    rw [toList_text_absolute, split, if_pos rfl]
    split
    · next hn => rw [hn]; rfl
    · next hn =>
      have hslash : ∀ piece ∈ names.map String.toList, '/' ∉ piece :=
        List.forall_mem_map.mpr fun name hm => (h name hm).2.2
      have hid : String.ofList ∘ String.toList = id := funext fun _ => String.ofList_toList
      rw [split_joinWith (mt List.map_eq_nil_iff.mp hn) hslash, List.map_cons, List.map_map, hid, List.map_id]
  unfold ofString
  dsimp only
  rw [hsplit, List.filter_cons_of_neg (by decide)]
  split
  · next hn => rw [hn]; rfl
  · refine List.filter_eq_self.mpr fun name hm => ?_
    rw [Bool.and_eq_true, bne_iff_ne, bne_iff_ne]
    exact ⟨(h name hm).1, (h name hm).2.1⟩

theorem ofString_text (h : ∀ name ∈ names, IsName name) :
    ofString (⟨"/", names⟩ : Path).text = ⟨"/", names⟩ := by
  have hroot : (ofString (⟨"/", names⟩ : Path).text).root = "/" := by
    cases names with
    | nil => rfl
    | cons name names =>
      obtain ⟨hempty, -, hslash⟩ := h name List.mem_cons_self
      obtain ⟨c, cs, hc⟩ : ∃ c cs, name.toList = c :: cs :=
        List.exists_cons_of_ne_nil fun he => hempty (String.toList_eq_nil_iff.mp he)
      obtain ⟨rest, hrest⟩ : ∃ rest, joinWith '/' ((name :: names).map String.toList) = c :: rest := by
        rw [List.map_cons, hc]
        cases names with
        | nil => exact ⟨cs, rfl⟩
        | cons other names => exact ⟨cs ++ _, rfl⟩
      refine root_ofString (toList_text_absolute.trans (congrArg _ hrest)) fun he => hslash ?_
      rw [hc, he]
      exact List.mem_cons_self
  show Path.mk (ofString _).root (ofString _).names = _
  rw [hroot, names_ofString_text h]

end Path

/-! ### URLs of files -/

namespace Url

variable {s path : List Char}

theorem cutAt_of_notMem {c : Char} (h : c ∉ s) : cutAt c s = (s, none) := by
  induction s with
  | nil => rfl
  | cons a s ih =>
    obtain ⟨ha, hs⟩ := not_or.mp (mt List.mem_cons.mpr h)
    rw [cutAt_cons (Ne.symm ha), ih hs]

theorem clean_of_isUrlChar (h : ∀ c ∈ s, IsUrlChar c) : clean s = s := by
  have hhead : s.dropWhile (·.toNat ≤ 32) = s := by
    cases s with
    | nil => rfl
    | cons c s =>
      have hc := (h c List.mem_cons_self).1
      exact List.dropWhile_cons_of_neg (by simpa using hc)
  unfold clean
  rw [hhead, List.filter_eq_self]
  intro c hm
  have hc := (h c hm).1
  by_contra hn
  have hblank : c = '\t' ∨ c = '\r' ∨ c = '\n' := by
    simp only [Bool.not_eq_true', Bool.not_eq_false, Bool.or_eq_true, beq_iff_eq, or_assoc] at hn
    exact hn
  rcases hblank with rfl | rfl | rfl <;> exact absurd hc (by decide)

theorem splitUrl_file (h : ∀ c ∈ path, IsUrlChar c) :
    splitUrl ("file:///".toList ++ path) = .ok ⟨"file".toList, [], '/' :: path, [], []⟩ := by
  have hclean : clean ("file:///".toList ++ path) = "file:///".toList ++ path :=
    clean_of_isUrlChar (List.forall_mem_append.mpr ⟨by decide, h⟩)
  have hscheme : takeScheme ("file:///".toList ++ path) =
      ("file".toList, '/' :: '/' :: '/' :: path) := by
    simp [takeScheme, cutAt, cutBefore, isSchemeChar]
  have hauthority : takeAuthority ('/' :: '/' :: '/' :: path) = ([], '/' :: path) := by
    simp [takeAuthority, cutBefore]
  have hnofault : authorityFault? [] = none := by decide
  have hcut {d : Char} (hd : d ≠ '/') (hm : ∀ c ∈ path, c ≠ d) :
      cutAt d ('/' :: path) = ('/' :: path, none) := by
    refine cutAt_of_notMem fun he => ?_
    rcases List.mem_cons.mp he with he | he
    · exact hd he
    · exact hm d he rfl
  unfold splitUrl
  rw [hclean, hscheme]
  dsimp only
  rw [hauthority]
  dsimp only
  rw [hnofault, hcut (by decide) fun c hc => (h c hc).2.2.2]
  dsimp only
  rw [hcut (by decide) fun c hc => (h c hc).2.2.1]
  rfl

end Url

namespace Source

open Url

/-! ### Places -/

/-- A name that leads on from one place to another: it holds no slash, and it is none of those for the
same place or the one above. -/
def IsPlaceName (name : SystemText) : Prop :=
  name ≠ [] ∧ name ≠ [.char '.'] ∧ name ≠ [.char '.', .char '.'] ∧ slash ∉ name

instance (name : SystemText) : Decidable (IsPlaceName name) := inferInstanceAs (Decidable (_ ∧ _))

variable {world : World} {names found : List SystemText} {location path : SystemText}
  {url : String} {bytes : List UInt8} {m : Mishap}

theorem isName_of_systemText {name : String} (h : IsPlaceName (systemText name.toList)) :
    Path.IsName name := by
  obtain ⟨hempty, hdot, -, hslash⟩ := h
  refine ⟨?_, ?_, fun hm => hslash (List.mem_map_of_mem hm)⟩
  · rintro rfl
    exact hempty rfl
  · rintro rfl
    exact hdot rfl

/-- A step up takes a name away, any other step adds the name it goes to. -/
theorem isPlaceName_of_follow {place : List SystemText} (h : FileTree.follow place names = .ok found)
    (hplace : ∀ name ∈ place, IsPlaceName name)
    (hnames : ∀ name ∈ names, name = [.char '.', .char '.'] ∨ IsPlaceName name) :
    ∀ name ∈ found, IsPlaceName name := by
  induction names generalizing place with
  | nil =>
    cases h
    exact hplace
  | cons name names ih =>
    obtain ⟨hname, hnames⟩ := List.forall_mem_cons.mp hnames
    rw [FileTree.follow] at h
    by_cases hup : name = [.char '.', .char '.']
    · rw [if_pos hup] at h
      exact ih h (fun n hn => hplace n (List.dropLast_subset place hn)) hnames
    · rw [if_neg hup] at h
      cases hb : systemBytes (placeText (place ++ [name])) with
      | error signs =>
        rw [hb] at h
        cases h
      | ok bytes =>
        rw [hb] at h
        refine ih h (List.forall_mem_append.mpr ⟨hplace, ?_⟩) hnames
        exact List.forall_mem_singleton.mpr (hname.resolve_left hup)

/-- A file tree finds places by names that lead on. -/
theorem isPlaceName_of_place {tree : FileTree} (h : tree.place path = .ok names)
    (hd : ∀ name ∈ tree.directory, IsPlaceName (systemText name.toList)) :
    ∀ name ∈ names, IsPlaceName name := by
  refine isPlaceName_of_follow h (List.forall_mem_nil _) ?_
  -- a path is cut at its slashes, and the names of the same place are left out
  have hpieces : ∀ name ∈ (split slash path).filter fun name => name != [] && name != [.char '.'],
      name = [.char '.', .char '.'] ∨ IsPlaceName name := by
    intro name hm
    obtain ⟨hm, hp⟩ := List.mem_filter.mp hm
    rw [Bool.and_eq_true, bne_iff_ne, bne_iff_ne] at hp
    exact or_iff_not_imp_left.mpr fun hup => ⟨hp.1, hp.2, hup, notMem_of_mem_split hm⟩
  split
  · exact hpieces
  · refine List.forall_mem_append.mpr ⟨fun name hm => ?_, hpieces⟩
    obtain ⟨n, hn, rfl⟩ := List.mem_map.mp hm
    exact .inr (hd n hn)

theorem placeText_plain (names : List String) : placeText (names.map (systemText ·.toList)) =
    systemText (⟨"/", names⟩ : Path).text.toList := by
  rw [Path.toList_text_absolute]
  have hnames : names.map (systemText ·.toList) = (names.map String.toList).map systemText := by
    rw [List.map_map]
    rfl
  rw [placeText, hnames]
  exact congrArg (slash :: ·) (joinWith_map CodePoint.char '/' _)

theorem exists_plain_names {s : List Char} (h : placeText names = systemText s) :
    ∃ plainNames : List String, names = plainNames.map (systemText ·.toList) := by
  have hchar : ∀ name ∈ names, name = systemText (name.map CodePoint.shown) := by
    intro name hname
    rw [systemText, List.map_map]
    refine (List.map_congr_left fun point hpoint => ?_).trans (List.map_id _) |>.symm
    have hmem : point ∈ systemText s := h ▸ List.mem_cons_of_mem _ (mem_joinWith hname hpoint)
    obtain ⟨c, -, rfl⟩ := List.mem_map.mp hmem
    rfl
  refine ⟨names.map fun name => String.ofList (name.map CodePoint.shown), ?_⟩
  rw [List.map_map]
  refine (List.map_id _).symm.trans (List.map_congr_left fun name hname => ?_)
  exact (hchar name hname).trans (congrArg systemText String.toList_ofList.symm)

theorem exists_bytes_of_placeText (h : systemBytes (placeText names) = .ok bytes) :
    ∃ rest, bytes = 47 :: rest := by
  have hcons : (encodeChar '/' ++ ·) <$> systemBytesFrom 1 (joinWith slash names) = .ok bytes := h
  cases hr : systemBytesFrom 1 (joinWith slash names) with
  | error signs =>
    rw [hr] at hcons
    cases hcons
  | ok rest =>
    rw [hr] at hcons
    cases hcons
    exact ⟨rest, rfl⟩

/-! ### URLs of locations -/

theorem splitUrl_fileUrl (h : systemBytes (placeText names) = .ok bytes) :
    splitUrl (Path.fileUrl bytes).toList = .ok ⟨"file".toList, [], percentEncode bytes, [], []⟩ := by
  obtain ⟨rest, rfl⟩ := exists_bytes_of_placeText h
  have hurl : (Path.fileUrl (47 :: rest)).toList = "file:///".toList ++ percentEncode rest := by
    have hslash : percentEncode (47 :: rest) = '/' :: percentEncode rest := rfl
    unfold Path.fileUrl
    rw [hslash, String.toList_append]
    exact congrArg ("file://".toList ++ ·) String.toList_ofList
  rw [hurl]
  exact splitUrl_file fun c => isUrlChar_of_mem_percentEncode

/-- What is read back of an escaped path is the path if all of it is text. -/
theorem percentDecode_place_iff (h : systemBytes (placeText names) = .ok bytes) :
    systemText (percentDecode (percentEncode bytes)) = placeText names ↔
      ∃ plainNames : List String, names = plainNames.map (systemText ·.toList) := by
  rw [percentDecode_percentEncode]
  constructor
  · exact fun he => exists_plain_names he.symm
  · rintro ⟨plainNames, rfl⟩
    rw [placeText_plain, systemBytes_systemText] at h
    cases h
    rw [utf8Lossy_utf8, placeText_plain]

theorem filePath_percentEncode {plainNames : List String}
    (h : ∀ name ∈ plainNames, Path.IsName name)
    (hb : systemBytes (placeText (plainNames.map (systemText ·.toList))) = .ok bytes) :
    filePath ⟨"file".toList, [], percentEncode bytes, [], []⟩ = ⟨"/", plainNames⟩ := by
  have hback := (percentDecode_place_iff hb).mpr ⟨plainNames, rfl⟩
  rw [placeText_plain] at hback
  unfold filePath
  rw [systemText_injective hback, String.ofList_toList, Path.ofString_text h]

theorem fileUrl?_of_url {parts : Parts} (hs : splitUrl (location.map CodePoint.shown) = .ok parts)
    (hl : 1 < parts.scheme.length) : fileUrl? world location = .ok none := by
  unfold fileUrl?
  rw [hs]
  exact if_pos hl

theorem fileUrl?_of_path {parts : Parts} (hs : splitUrl (location.map CodePoint.shown) = .ok parts)
    (hl : parts.scheme.length ≤ 1) (hn : .char '\x00' ∉ location) :
    fileUrl? world location =
      (world.place location).bind fun names =>
        match systemBytes (placeText names) with
        | .ok bytes => .ok (some (Path.fileUrl bytes))
        | .error signs => .error (.unwritable signs) := by
  unfold fileUrl?
  rw [hs]
  dsimp only
  rw [if_neg (Nat.not_lt.mpr hl), if_neg (by simpa using hn)]
  cases world.place location <;> rfl

/-- The URL made of a location is one of a file, which comes apart. -/
theorem splitUrl_of_fileUrl? (h : fileUrl? world location = .ok (some url)) :
    ∃ parts, splitUrl url.toList = .ok parts ∧ 1 < parts.scheme.length := by
  unfold fileUrl? at h
  split at h
  · cases h
  split at h
  · cases h
  split at h
  · cases h
  split at h
  · cases h
  split at h
  · next bytes hb =>
    cases h
    exact ⟨_, splitUrl_fileUrl hb, show 1 < "file".toList.length by decide⟩
  · cases h

theorem urlAt_urlAt {u : SystemText} (h : urlAt world location = .ok u) : urlAt world u = .ok u := by
  obtain ⟨url?, hf, rfl⟩ := map_ok_iff.mp h
  cases url? with
  | none => exact congrArg (Except.map _) hf
  | some url =>
    obtain ⟨parts, hs, hl⟩ := splitUrl_of_fileUrl? hf
    have hnone : fileUrl? world (systemText url.toList) = .ok none :=
      fileUrl?_of_url (by rwa [map_shown_systemText]) hl
    exact congrArg (Except.map _) hnone

/-- A location that is no URL is the path of a file, which leads to a place. If the system takes the text
of the place, the location has a `file` URL with nothing but the escaped bytes of that text in it, and what
is read back from there is the bytes as far as they are text: the path of the place exactly if its names
are plain, and then the file is the one at the place. Any other location is its own URL. So a URL made of
a location is left as it is, and loading the schema from it is loading it from the location: it is known by
the same URI, and there is the same document or the same fault. -/
theorem location_survives_url (world : World) (loader : Loader) (location : SystemText)
    (hplace : ∀ names, world.place location = .ok names → ∀ name ∈ names, IsPlaceName name) :
    (∀ parts, splitUrl (location.map CodePoint.shown) = .ok parts → parts.scheme.length ≤ 1 →
      .char '\x00' ∉ location →
      (∀ m, world.place location = .error m → urlAt world location = .error m) ∧
      ∀ names, world.place location = .ok names →
        (∀ signs, systemBytes (placeText names) = .error signs →
          urlAt world location = .error (.unwritable signs)) ∧
        ∀ bytes, systemBytes (placeText names) = .ok bytes →
          ∃ (url : String) (path : List Char),
            urlAt world location = .ok (systemText url.toList) ∧ "file://".toList <+: url.toList ∧
            splitUrl url.toList = .ok ⟨"file".toList, [], path, [], []⟩ ∧
            percentDecode path = utf8Lossy bytes ∧
            (systemText (percentDecode path) = placeText names ↔
              ∃ plainNames : List String, names = plainNames.map (systemText ·.toList)) ∧
            ∀ plainNames : List String, names = plainNames.map (systemText ·.toList) →
              filePath ⟨"file".toList, [], path, [], []⟩ = ⟨"/", plainNames⟩) ∧
    (∀ parts, splitUrl (location.map CodePoint.shown) = .ok parts → 1 < parts.scheme.length →
      urlAt world location = .ok location) ∧
    ∀ url, urlAt world location = .ok url →
      urlAt world url = .ok url ∧ loadLocation world loader url = loadLocation world loader location := by
  refine ⟨fun parts hs hl hn => ⟨fun m hm => ?_, fun names hnames => ⟨fun signs hb => ?_, fun bytes hb => ?_⟩⟩,
    fun parts hs hl => ?_, fun url hu => ⟨urlAt_urlAt hu, ?_⟩⟩
  · rw [urlAt, fileUrl?_of_path hs hl hn, hm]
    rfl
  · rw [urlAt, fileUrl?_of_path hs hl hn, hnames]
    dsimp only [Except.bind]
    rw [hb]
    rfl
  · refine ⟨Path.fileUrl bytes, percentEncode bytes, ?_, ?_, splitUrl_fileUrl hb,
      percentDecode_percentEncode bytes, percentDecode_place_iff hb, fun plainNames hplain => ?_⟩
    · rw [urlAt, fileUrl?_of_path hs hl hn, hnames]
      dsimp only [Except.bind]
      rw [hb]
      rfl
    · unfold Path.fileUrl
      rw [String.toList_append]
      exact List.prefix_append _ _
    · subst hplain
      refine filePath_percentEncode (fun name hm => isName_of_systemText ?_) hb
      exact hplace _ hnames _ (List.mem_map_of_mem hm)
  · rw [urlAt, fileUrl?_of_url hs hl]
    rfl
  · unfold loadLocation
    rw [hu, urlAt_urlAt hu]

def lossyWorld : World where
  place := FileTree.place ⟨["srv"], []⟩
  read := FileTree.read ⟨["srv"], [(["srv", "\ufffd.json"], .file (utf8 "[true]".toList))]⟩
  fetch _ := .failed ""

/-- A name like that of a drive, with characters that URLs have no place for. -/
def oddLocation : SystemText := systemText "c:/x y%41?#;\t/é//./../ö".toList

theorem location_survives_url_odd :
    (∀ names, lossyWorld.place oddLocation = .ok names → ∀ name ∈ names, IsPlaceName name) ∧
      splitUrl (oddLocation.map CodePoint.shown) =
        .ok ⟨"c".toList, [], "/x y%41".toList, [], ";/é//./../ö".toList⟩ ∧
      ∃ (url : String) (path : List Char), urlAt lossyWorld oddLocation = .ok (systemText url.toList) ∧
        url = "file:///srv/c%3A/x%20y%2541%3F%23%3B%09/%C3%B6" ∧
        percentDecode path = "/srv/c:/x y%41?#;\t/ö".toList ∧
        urlAt lossyWorld (systemText url.toList) = .ok (systemText url.toList) ∧
        loadLocation lossyWorld defaultLoader (systemText url.toList) =
          loadLocation lossyWorld defaultLoader oddLocation := by
  have hplace : ∀ names, lossyWorld.place oddLocation = .ok names →
      ∀ name ∈ names, IsPlaceName name := fun names h => isPlaceName_of_place h (by decide)
  have hs : splitUrl (oddLocation.map CodePoint.shown) =
      .ok ⟨"c".toList, [], "/x y%41".toList, [], ";/é//./../ö".toList⟩ := by decide +kernel
  have hnames : lossyWorld.place oddLocation =
      .ok (["srv", "c:", "x y%41?#;\t", "ö"].map (systemText ·.toList)) := by decide +kernel
  obtain ⟨hpath, -, hsame⟩ := location_survives_url lossyWorld defaultLoader oddLocation hplace
  obtain ⟨-, hfound⟩ := hpath _ hs (by decide) (by decide +kernel)
  obtain ⟨url, path, hu, -, -, -, hback, -⟩ := (hfound _ hnames).2
    (utf8 "/srv/c:/x y%41?#;\t/ö".toList) (by decide +kernel)
  have he : urlAt lossyWorld oddLocation =
      .ok (systemText "file:///srv/c%3A/x%20y%2541%3F%23%3B%09/%C3%B6".toList) := by decide +kernel
  have hread : systemText (percentDecode path) = systemText "/srv/c:/x y%41?#;\t/ö".toList :=
    (hback.mpr ⟨_, rfl⟩).trans (by decide +kernel)
  have hurl : url = "file:///srv/c%3A/x%20y%2541%3F%23%3B%09/%C3%B6" :=
    String.toList_injective (systemText_injective (Except.ok.inj (hu.symm.trans he)))
  obtain ⟨hsameUrl, hload⟩ := hsame _ hu
  exact ⟨hplace, hs, url, path, hu, hurl, systemText_injective hread, hsameUrl, hload⟩

/-- The name of a file that begins with the byte 0xff, which begins no character. -/
def brokenLocation : SystemText := .surrogate 0x4ff :: systemText ".json".toList

/-- The byte is escaped in the URL of that file, but what is read back is the name of another file, whose
document is loaded; and so not every location is recovered from its URL. -/
theorem escaped_byte_lost :
    urlAt lossyWorld brokenLocation = .ok (systemText "file:///srv/%FF.json".toList) ∧
      filePath ⟨"file".toList, [], "/srv/%FF.json".toList, [], []⟩ = ⟨"/", ["srv", "\ufffd.json"]⟩ ∧
      (∃ loading, loadLocation lossyWorld defaultLoader brokenLocation = some loading ∧
        loading.result.toOption.map (fun read => (read.1, read.2.show)) =
          some ("file:///srv/%FF.json", "[True]")) ∧
      ¬ ∀ (world : World) (location : SystemText) (parts : Parts) (names : List SystemText),
        splitUrl (location.map CodePoint.shown) = .ok parts → parts.scheme.length ≤ 1 →
        .char '\x00' ∉ location → world.place location = .ok names →
        ∃ url path, urlAt world location = .ok (systemText url) ∧
          splitUrl url = .ok ⟨"file".toList, [], path, [], []⟩ ∧
          systemText (percentDecode path) = placeText names := by
  have hurl : urlAt lossyWorld brokenLocation = .ok (systemText "file:///srv/%FF.json".toList) := by
    decide +kernel
  have hnames : lossyWorld.place brokenLocation =
      .ok [systemText "srv".toList, brokenLocation] := by decide +kernel
  refine ⟨hurl, by decide +kernel, ⟨_, rfl, by decide +kernel⟩, fun h => ?_⟩
  obtain ⟨url, path, hu, -, hback⟩ := h lossyWorld brokenLocation ⟨[], [], "\ufffd.json".toList, [], []⟩
    [systemText "srv".toList, brokenLocation] (by decide +kernel) (by decide) (by decide) hnames
  obtain ⟨plainNames, hplain⟩ := exists_plain_names hback.symm
  have hbroken : CodePoint.surrogate 0x4ff ∈ placeText [systemText "srv".toList, brokenLocation] := by
    decide +kernel
  rw [← hback, systemText] at hbroken
  obtain ⟨c, -, hc⟩ := List.mem_map.mp hbroken
  cases hc

end Source

end Preflight

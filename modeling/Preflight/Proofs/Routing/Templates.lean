import Preflight.Proofs.Routing.Segments
import Preflight.Routing.Template

/-!
# Templates by segments

A placeholder holds no slash, so a path may be taken apart at its slashes before its placeholders are
looked for (`params_eq_flatMap`) and before they are written as the router's parameters
(`split_routed`). A segment that the router may take when it is written so has no placeholder but one
at its head (`placeholderFirst_of_wellNamed`).
-/

namespace Preflight.Routing

open Text

/-- A text with its placeholders written as router parameters. -/
def routed (s : List Char) : List Char := (scan none s).flatMap Piece.routed

def Piece.name? : Piece → Option (List Char)
  | .char _ => none
  | .param name => some name

def names (s : List Char) : List (List Char) := (scan none s).filterMap Piece.name?

theorem toList_endpointPath (path : String) : (endpointPath path).toList = routed path.toList :=
  String.toList_ofList

theorem params_eq_map_names (path : String) : params path = (names path.toList).map String.ofList := by
  unfold params names pieces
  rw [List.map_filterMap]
  congr 1
  funext piece
  cases piece <;> rfl

/-! ### Slashes -/

theorem scan_append_slash (opened : Option (List Char)) (a b : List Char) :
    scan opened (a ++ '/' :: b) = scan opened a ++ .char '/' :: scan none b := by
  fun_induction scan opened a <;> simp_all [scan]

theorem routed_append_slash (a b : List Char) : routed (a ++ '/' :: b) = routed a ++ '/' :: routed b := by
  unfold routed
  rw [scan_append_slash, List.flatMap_append]
  rfl

theorem names_append_slash (a b : List Char) : names (a ++ '/' :: b) = names a ++ names b := by
  unfold names
  rw [scan_append_slash, List.filterMap_append]
  rfl

theorem slash_notMem_routed {s : List Char} (h : '/' ∉ s) : '/' ∉ routed s := by
  intro hm
  obtain ⟨piece, hp, hm⟩ := List.mem_flatMap.mp hm
  refine h ?_
  rw [← List.nil_append s]
  show '/' ∈ (none : Option (List Char)).elim [] ('\x7b' :: ·) ++ s
  rw [← flatMap_text_scan]
  refine List.mem_flatMap.mpr ⟨piece, hp, ?_⟩
  cases piece with
  | char c => exact hm
  | param name =>
    rcases List.mem_cons.mp hm with hc | hm
    · exact absurd hc (by decide)
    · exact List.mem_cons_of_mem _ (List.mem_append_left _ hm)

theorem routed_joinWith (ps : List (List Char)) :
    routed (joinWith '/' ps) = joinWith '/' (ps.map routed) := by
  induction ps with
  | nil => rfl
  | cons p ps ih =>
    cases ps with
    | nil => rfl
    | cons q ps =>
      rw [joinWith_cons_cons _ _ (List.cons_ne_nil q ps), routed_append_slash, ih]
      rfl

theorem names_joinWith (ps : List (List Char)) : names (joinWith '/' ps) = ps.flatMap names := by
  induction ps with
  | nil => rfl
  | cons p ps ih =>
    cases ps with
    | nil => exact (List.append_nil _).symm
    | cons q ps =>
      rw [joinWith_cons_cons _ _ (List.cons_ne_nil q ps), names_append_slash, ih, ← List.flatMap_cons]

theorem split_routed (s : List Char) : split '/' (routed s) = (split '/' s).map routed := by
  have hs : routed s = joinWith '/' ((split '/' s).map routed) := by
    rw [← routed_joinWith, joinWith_split]
  rw [hs]
  refine split_joinWith ?_ fun p hp => ?_
  · rw [Ne, List.map_eq_nil_iff]
    exact split_ne_nil '/' s
  · obtain ⟨q, hq, rfl⟩ := List.mem_map.mp hp
    exact slash_notMem_routed (notMem_of_mem_split hq)

theorem splitString_endpointPath (path : String) :
    splitString '/' (endpointPath path) = (splitString '/' path).map endpointPath := by
  unfold splitString
  rw [toList_endpointPath, split_routed, List.map_map, List.map_map]
  congr 1
  funext s
  rw [Function.comp_apply, Function.comp_apply, endpointPath, pieces, String.toList_ofList, routed]

theorem params_eq_flatMap (path : String) : params path = (splitString '/' path).flatMap params := by
  rw [params_eq_map_names, splitString]
  conv => lhs; rw [← joinWith_split '/' path.toList, names_joinWith]
  rw [List.map_flatMap, List.flatMap_map]
  congr 1
  funext s
  rw [params_eq_map_names, String.toList_ofList]

/-! ### Placeholders in a segment -/

/-- A segment without placeholders, or with a single one that stands at its head and whose name holds
no wildcard. -/
def PlaceholderFirst (segment : String) : Prop :=
  params segment = [] ∨ ∃ name rest : String, segment = "\x7b" ++ name ++ "\x7d" ++ rest ∧
    params segment = [name] ∧ ∀ c ∈ name.toList, isWildcard c = false

/-- A well-named segment is written with at most one parameter, and that at its head. -/
theorem scan_of_wellNamed {s : List Char} (h : ∀ c ∈ (routed s).tail, isWildcard c = false) :
    names s = [] ∨ ∃ name after, scan none s = .param name :: after ∧ names s = [name] ∧
      ∀ c ∈ name, isWildcard c = false := by
  unfold routed names at *
  cases hs : scan none s with
  | nil => exact .inl rfl
  | cons piece after =>
    rw [hs, List.flatMap_cons] at h
    obtain ⟨c, text, hc⟩ : ∃ c text, piece.routed = c :: text := by
      cases piece <;> exact ⟨_, _, rfl⟩
    rw [hc, List.cons_append, List.tail_cons, List.forall_mem_append] at h
    have hafter : after.filterMap Piece.name? = [] := by
      rw [List.filterMap_eq_nil_iff]
      intro other ho
      cases other with
      | char c => rfl
      | param name =>
        have hcolon := h.2 ':' (List.mem_flatMap.mpr ⟨_, ho, List.mem_cons_self⟩)
        exact absurd hcolon (by decide)
    cases piece with
    | char c => exact .inl hafter
    | param name =>
      obtain rfl : name = text := (List.cons.inj hc).2
      have hname : (Piece.param name).name? = some name := rfl
      exact .inr ⟨name, after, rfl, by rw [List.filterMap_cons_some hname, hafter], h.1⟩

variable {segment p : String}

theorem scan_of_params (h : WellNamed (endpointPath segment)) :
    params segment = [] ∨ ∃ name after, scan none segment.toList = .param name :: after ∧
      params segment = [String.ofList name] ∧ ∀ c ∈ name, isWildcard c = false := by
  have htail := h.1
  rw [toList_endpointPath] at htail
  rw [params_eq_map_names]
  rcases scan_of_wellNamed htail with hn | ⟨name, after, hs, hn, hw⟩
  · exact .inl (by rw [hn]; rfl)
  · exact .inr ⟨name, after, hs, by rw [hn]; rfl, hw⟩

theorem placeholderFirst_of_wellNamed (h : WellNamed (endpointPath segment)) :
    PlaceholderFirst segment := by
  refine (scan_of_params h).imp_right ?_
  rintro ⟨name, after, hs, hp, hw⟩
  refine ⟨String.ofList name, String.ofList (after.flatMap Piece.text), ?_, hp, ?_⟩
  · apply String.toList_injective
    have ht := text_pieces segment
    rw [pieces, hs] at ht
    rw [← ht]
    simp [Piece.text]
  · rwa [String.toList_ofList]

/-- The parameter that a well-named segment is written with stands at its head. -/
theorem endpointPath_of_mem_params (h : WellNamed (endpointPath segment)) (hp : p ∈ params segment) :
    ∃ rest, endpointPath segment = ":" ++ p ++ rest := by
  rcases scan_of_params h with hn | ⟨name, after, hs, hn, -⟩
  · rw [hn] at hp
    cases hp
  · rw [hn, List.mem_singleton] at hp
    subst hp
    refine ⟨String.ofList (after.flatMap Piece.routed), ?_⟩
    apply String.toList_injective
    rw [toList_endpointPath, routed, hs]
    simp [Piece.routed]

end Preflight.Routing

import Preflight.Proofs.Gateway.Patterns
import Preflight.Proofs.Pattern.Matches
import Preflight.Proofs.Routing.Templates

/-!
# Placeholders of a path

The placeholders of a path are the matches of one pattern (`placeholderPattern`), looked for from the left
(`CutBy`, `cutBy_iff`); since a name holds no brace, no two of them overlap, and the parts of a path are
known from the names alone (`parts_eq_iff`). A brace at which no placeholder begins or ends is a part of
its own (`IsBare`, `scan_of_isBare`). The router's form of a path is the path part by part, and so also
segment by segment (`endpointPath_rewrites`).
-/

namespace Preflight.Routing

open Gateway Pattern Text

def reserved : List Char := ['\x7b', '\x7d', '/']

def isNameChar (c : Char) : Bool := !reserved.contains c

def IsParamName (name : List Char) : Prop := name ≠ [] ∧ ∀ c ∈ name, isNameChar c = true

/-- What was read behind an opening brace may still become a name. -/
def MayBeName (opened : Option (List Char)) : Prop := ∀ done ∈ opened, ∀ c ∈ done, isNameChar c = true

def Begins (s : List Char) : Prop := ∃ name, IsParamName name ∧ (Piece.param name).text <+: s

/-- A brace between two texts at which no placeholder begins or ends: those of an empty pair, the outer
ones of nested pairs and any without counterpart. -/
def IsBare (before : List Char) (c : Char) (behind : List Char) : Prop :=
  c = '\x7b' ∧ (∀ name, IsParamName name → ¬ name ++ ['\x7d'] <+: behind) ∨
    c = '\x7d' ∧ ∀ name, IsParamName name → ¬ '\x7b' :: name <:+ before

variable {name done s a b : List Char} {c : Char} {opened : Option (List Char)} {parts : List Piece}

theorem isNameChar_iff : isNameChar c = true ↔ c ≠ '\x7b' ∧ c ≠ '\x7d' ∧ c ≠ '/' := by
  simp [isNameChar, reserved]

theorem text_param (name s : List Char) :
    (Piece.param name).text ++ s = '\x7b' :: (name ++ '\x7d' :: s) := by
  simp [Piece.text]

theorem mayBeName_none : MayBeName none := fun _ h => nomatch h

theorem mayBeName_nil : MayBeName (some []) := by
  rintro _ ⟨rfl⟩
  exact List.forall_mem_nil _

theorem MayBeName.append (h : MayBeName (some done)) (hc : isNameChar c = true) :
    MayBeName (some (done ++ [c])) := by
  rintro _ ⟨rfl⟩
  exact List.forall_mem_append.mpr ⟨h done rfl, List.forall_mem_singleton.mpr hc⟩

/-! ### Parts of a text -/

theorem scan_none_cons (h : c ≠ '\x7b') (s : List Char) :
    scan none (c :: s) = .char c :: scan none s := by
  rw [scan, if_neg h]

theorem scan_some_cons (h : isNameChar c = true) (done s : List Char) :
    scan (some done) (c :: s) = scan (some (done ++ [c])) s := by
  obtain ⟨ho, hcl, hs⟩ := isNameChar_iff.mp h
  rw [scan, if_neg hcl, if_neg ho, if_neg hs]

theorem scan_name (h : ∀ c ∈ name, isNameChar c = true) (done s : List Char) :
    scan (some done) (name ++ s) = scan (some (done ++ name)) s := by
  induction name generalizing done with
  | nil => rw [List.append_nil, List.nil_append]
  | cons c name ih =>
    obtain ⟨hc, hname⟩ := List.forall_mem_cons.mp h
    rw [List.cons_append, scan_some_cons hc, ih hname, List.append_assoc]
    rfl

theorem scan_param (h : IsParamName name) (s : List Char) :
    scan none ((Piece.param name).text ++ s) = .param name :: scan none s := by
  rw [text_param, scan, if_pos rfl, scan_name h.2, List.nil_append, scan, if_pos rfl, if_neg h.1]

/-- An opening brace begins anew. -/
theorem scan_append_open (opened : Option (List Char)) (a s : List Char) :
    scan opened (a ++ '\x7b' :: s) = scan opened a ++ scan none ('\x7b' :: s) := by
  fun_induction scan opened a <;> simp_all [scan]

theorem scan_some_of_not_ends (hd : MayBeName (some done))
    (h : ∀ name, IsParamName (done ++ name) → ¬ name ++ ['\x7d'] <+: s) :
    scan (some done) s = .char '\x7b' :: (done.map .char ++ scan none s) := by
  induction s generalizing done with
  | nil => simp [scan]
  | cons c s ih =>
    by_cases hc : isNameChar c = true
    · have hmore := ih (hd.append hc) fun name hn hp =>
        h (c :: name) (by simpa using hn) (by simpa using hp)
      rw [scan_some_cons hc, hmore, scan_none_cons (isNameChar_iff.mp hc).1]
      simp
    · rw [isNameChar_iff] at hc
      rcases (by tauto : c = '\x7b' ∨ c = '\x7d' ∨ c = '/') with rfl | rfl | rfl
      · rfl
      · have hempty : done = [] := by
          by_contra hne
          exact h [] ⟨by simpa using hne, by simpa using hd done rfl⟩ ⟨s, rfl⟩
        subst hempty
        rfl
      · rfl

theorem scan_open (h : ∀ name, IsParamName name → ¬ name ++ ['\x7d'] <+: s) :
    scan none ('\x7b' :: s) = .char '\x7b' :: scan none s := by
  rw [scan, if_pos rfl]
  exact scan_some_of_not_ends mayBeName_nil h

theorem scan_char (h : ¬ Begins (c :: s)) : scan none (c :: s) = .char c :: scan none s := by
  by_cases ho : c = '\x7b'
  · subst ho
    refine scan_open fun name hn hp => h ⟨name, hn, ?_⟩
    exact (List.prefix_cons_inj _).mpr hp
  · exact scan_none_cons ho s

theorem scan_of_no_open (h : '\x7b' ∉ a) (s : List Char) :
    scan none (a ++ s) = a.map .char ++ scan none s := by
  induction a with
  | nil => rfl
  | cons c a ih =>
    obtain ⟨hc, ha⟩ := not_or.mp (mt List.mem_cons.mpr h)
    rw [List.cons_append, scan_none_cons (Ne.symm hc), ih ha]
    rfl

theorem isParamName_of_mem_scan (ho : MayBeName opened) (h : .param name ∈ scan opened s) :
    IsParamName name := by
  fun_induction scan opened s with
  | case1 => cases h
  | case2 => simp at h
  | case3 s ih => exact ih mayBeName_nil h
  | case4 c s hc ih => exact ih mayBeName_none (by simpa using h)
  | case5 s ih => exact ih mayBeName_none (by simpa using h)
  | case6 done s hne ih =>
    rcases List.mem_cons.mp h with he | h
    · obtain rfl := Piece.param.inj he
      exact ⟨hne, ho name rfl⟩
    · exact ih mayBeName_none h
  | case7 done s hcl ih => exact ih mayBeName_nil (by simpa using h)
  | case8 done s hcl hop ih => exact ih mayBeName_none (by simpa using h)
  | case9 done c s hcl hop hs ih => exact ih (ho.append (isNameChar_iff.mpr ⟨hop, hcl, hs⟩)) h

/-! ### Bare braces -/

/-- A closing brace stays if no placeholder ends at it, also where one was begun before the text. -/
theorem scan_append_close (ho : MayBeName opened)
    (h : ∀ name, IsParamName name → ¬ '\x7b' :: name <:+ opened.elim [] ('\x7b' :: ·) ++ a)
    (s : List Char) :
    scan opened (a ++ '\x7d' :: s) = scan opened a ++ .char '\x7d' :: scan none s := by
  fun_induction scan opened a with
  | case1 => rfl
  | case2 done =>
    have hempty : done = [] := by
      by_contra hne
      exact h done ⟨hne, ho done rfl⟩ (by simp)
    subst hempty
    rfl
  | case3 a ih =>
    rw [List.cons_append, scan, if_pos rfl]
    exact ih mayBeName_nil h
  | case4 c a hc ih =>
    have ih := ih mayBeName_none fun name hn hs => h name hn (hs.trans (List.suffix_cons c a))
    rw [List.cons_append, scan_none_cons hc, ih]
    rfl
  | case5 a ih =>
    have ih := ih mayBeName_none fun name hn hs => h name hn (hs.trans ⟨['\x7b', '\x7d'], rfl⟩)
    rw [List.cons_append, scan, if_pos rfl, if_pos rfl, ih]
    rfl
  | case6 done a hne ih =>
    have ih := ih mayBeName_none fun name hn hs =>
      h name hn (hs.trans ⟨(Piece.param done).text, text_param done a⟩)
    rw [List.cons_append, scan, if_pos rfl, if_neg hne, ih]
    rfl
  | case7 done a hcl ih =>
    have ih := ih mayBeName_nil fun name hn hs => h name hn (hs.trans ⟨'\x7b' :: done, rfl⟩)
    rw [List.cons_append, scan, if_neg hcl, if_pos rfl, ih]
    simp
  | case8 done a hcl hop ih =>
    have ih := ih mayBeName_none fun name hn hs =>
      h name hn (hs.trans ⟨'\x7b' :: (done ++ ['/']), by simp⟩)
    rw [List.cons_append, scan, if_neg hcl, if_neg hop, if_pos rfl, ih]
    simp
  | case9 done c a hcl hop hs ih =>
    have hc : isNameChar c = true := isNameChar_iff.mpr ⟨hop, hcl, hs⟩
    rw [List.cons_append, scan_some_cons hc]
    exact ih (ho.append hc) fun name hn hsuf => h name hn (by simpa using hsuf)

theorem scan_of_isBare (h : IsBare a c b) :
    scan none (a ++ c :: b) = scan none a ++ .char c :: scan none b := by
  rcases h with ⟨rfl, h⟩ | ⟨rfl, h⟩
  · rw [scan_append_open, scan_open h]
  · exact scan_append_close mayBeName_none h b

/-! ### Parts told by their names -/

theorem names_param (h : IsParamName name) (s : List Char) :
    names ((Piece.param name).text ++ s) = name :: names s := by
  unfold names
  rw [scan_param h]
  rfl

theorem names_char (h : ¬ Begins (c :: s)) : names (c :: s) = names s := by
  unfold names
  rw [scan_char h]
  rfl

theorem names_of_no_open (h : '\x7b' ∉ a) (s : List Char) : names (a ++ s) = names s := by
  have hnone : a.filterMap (Piece.name? ∘ Piece.char) = [] :=
    List.filterMap_eq_nil_iff.mpr fun _ _ => rfl
  unfold names
  rw [scan_of_no_open h, List.filterMap_append, List.filterMap_map, hnone, List.nil_append]

/-- A placeholder at the head of a text is gone with its brace. -/
theorem length_names_lt (h : Begins (c :: s)) : (names s).length < (names (c :: s)).length := by
  obtain ⟨name, hn, rest, hrest⟩ := h
  have hs : s = name ++ ['\x7d'] ++ rest := by
    rw [text_param] at hrest
    simpa using (List.cons.inj hrest).2.symm
  have hopen : '\x7b' ∉ name ++ ['\x7d'] := by
    simpa using fun hm => (isNameChar_iff.mp (hn.2 _ hm)).1 rfl
  rw [← hrest, names_param hn, hs, names_of_no_open hopen]
  exact Nat.lt_succ_self _

/-- Parts hold no more placeholders than the text that they make up, and as many only if they are the
text's own parts. -/
theorem parts_of_length (h : ∀ name, .param name ∈ parts → IsParamName name) :
    (parts.filterMap Piece.name?).length ≤ (names (parts.flatMap Piece.text)).length ∧
      ((parts.filterMap Piece.name?).length = (names (parts.flatMap Piece.text)).length →
        parts = scan none (parts.flatMap Piece.text)) := by
  induction parts with
  | nil => exact ⟨Nat.le_refl _, fun _ => rfl⟩
  | cons piece parts ih =>
    obtain ⟨hle, heq⟩ := ih fun name hm => h name (List.mem_cons_of_mem _ hm)
    cases piece with
    | param name =>
      have hn := h name List.mem_cons_self
      rw [List.flatMap_cons, names_param hn, scan_param hn,
        List.filterMap_cons_some (rfl : (Piece.param name).name? = _)]
      exact ⟨Nat.succ_le_succ hle, fun he => congrArg _ (heq (Nat.succ.inj he))⟩
    | char c =>
      have htext : (Piece.char c :: parts).flatMap Piece.text = c :: parts.flatMap Piece.text := rfl
      rw [htext, List.filterMap_cons_none (rfl : (Piece.char c).name? = _)]
      by_cases hb : Begins (c :: parts.flatMap Piece.text)
      · -- a placeholder that the parts spell out is missing among their names
        have hlt := length_names_lt hb
        exact ⟨by omega, fun he => by omega⟩
      · rw [names_char hb, scan_char hb]
        exact ⟨hle, fun he => congrArg _ (heq he)⟩

theorem isParamName_of_mem_names (h : name ∈ names s) : IsParamName name := by
  obtain ⟨piece, hp, he⟩ := List.mem_filterMap.mp h
  cases piece with
  | char c => cases he
  | param other =>
    obtain rfl := Option.some.inj he
    exact isParamName_of_mem_scan mayBeName_none hp

/-- The parts of a text are the only ones that make it up and have the names of its placeholders. -/
theorem parts_eq_iff (s : List Char) (others : List Piece) :
    others.flatMap Piece.text = s ∧ others.filterMap Piece.name? = names s ↔ others = scan none s := by
  constructor
  · rintro ⟨rfl, hn⟩
    have hnames (name : List Char) (hm : .param name ∈ others) :
        name ∈ names (others.flatMap Piece.text) :=
      hn ▸ List.mem_filterMap.mpr ⟨_, hm, rfl⟩
    exact (parts_of_length fun name hm => isParamName_of_mem_names (hnames name hm)).2 (congrArg _ hn)
  · rintro rfl
    exact ⟨by rw [flatMap_text_scan]; rfl, rfl⟩

/-! ### Matches of a pattern -/

/-- The pattern of a placeholder, its name being the first group. -/
def placeholderPattern : String := "\\\x7b([^\x7b\x7d/]+)\\\x7d"

def noneOf (chars : List Char) : Regex := .set true (chars.map fun c => .range c.toNat c.toNat) false false

def placeholderRegex : Regex :=
  .seq (literal '\x7b') (.seq (.group 1 (.repeated 1 none .greedy (noneOf reserved)))
    (literal '\x7d'))

/-- How a pattern takes a text apart, from the left: a match where one begins, told by its first group,
else a single character. -/
inductive CutBy (regex : Regex) : Place → List Piece → Prop
  | ends {s : Place} : regex.run s some = none → s.rest = [] → CutBy regex s []
  | found {s t : Place} {name : List Char} {parts : List Piece} : regex.run s some = some t →
      t.groups.lookup 1 = some name → CutBy regex { t with groups := [] } parts →
      CutBy regex s (.param name :: parts)
  | passed {s : Place} {c : Char} {rest : List Char} {parts : List Piece} : regex.run s some = none →
      s.rest = c :: rest → CutBy regex (s.step c rest) parts → CutBy regex s (.char c :: parts)

theorem compile_placeholderPattern : Pattern.compile placeholderPattern = .ok placeholderRegex :=
  eq_ok_of_toOption (by decide +kernel)

theorem takes_literal (c : Char) : Takes false [.range c.toNat c.toNat] false (· == c) :=
  (accepts_literal c).takes

theorem takes_noneOf (chars : List Char) :
    Takes true (chars.map fun c => .range c.toNat c.toNat) false fun c => !chars.contains c := by
  intro c
  rw [Bool.bne_true, Bool.not_inj_iff]
  induction chars with
  | nil => rfl
  | cons d chars ih =>
    have hd : Member.holds false false c (.range d.toNat d.toNat) = (c == d) := by
      simpa using accepts_literal d c
    rw [List.map_cons, List.any_cons, hd, ih, List.contains_cons]

variable {p : Place}

/-- What is left to match behind a name that begins at a place. -/
def closing (start : Place) : Next := fun t => (literal '\x7d').run (start.capture t 1) some

theorem run_literal_nil {k : Next} (hp : p.rest = []) (d : Char) : (literal d).run p k = none :=
  run_set_nil hp

theorem run_literal_cons {k : Next} {c : Char} {rest : List Char} (hp : p.rest = c :: rest) (d : Char) :
    (literal d).run p k = if c == d then k (p.step c rest) else none :=
  run_set_cons (takes_literal d) hp

theorem refuses_closing (start : Place) : Refuses (closing start) isNameChar := by
  intro t c rest ht hc
  have hclose : (c == '\x7d') = false := beq_eq_false_iff_ne.mpr (isNameChar_iff.mp hc).2.1
  have hrest : (start.capture t 1).rest = c :: rest := ht
  rw [closing, run_literal_cons hrest, hclose]
  rfl

theorem run_placeholder_nil (hp : p.rest = []) : placeholderRegex.run p some = none := by
  rw [placeholderRegex, run_seq, run_literal_nil hp]

/-- Behind an opening brace all that can be a name is taken. -/
theorem run_placeholder_cons {rest : List Char} (hp : p.rest = c :: rest) :
    placeholderRegex.run p some =
      if c = '\x7b' ∧ rest.takeWhile isNameChar ≠ [] then
        closing (p.step c rest) ((p.step c rest).past isNameChar)
      else none := by
  have hname := run_oneOrMore (takes_noneOf reserved) (refuses_closing (p.step c rest))
    (p.step c rest)
  rw [placeholderRegex, run_seq, run_literal_cons hp]
  by_cases hc : c = '\x7b'
  · rw [if_pos (beq_iff_eq.mpr hc), run_seq, run_group]
    refine hname.trans ?_
    simp only [hc, true_and, ne_eq, ite_not]
    rfl
  · rw [if_neg (mt beq_iff_eq.mp hc), if_neg fun h => hc h.1]

/-- A placeholder that begins at a place is matched there, with its name as the first group. -/
theorem run_placeholder_of_begins {rest : List Char} (hn : IsParamName name)
    (hp : p.rest = (Piece.param name).text ++ rest) :
    ∃ t, placeholderRegex.run p some = some t ∧ t.rest = rest ∧ t.groups.lookup 1 = some name := by
  rw [text_param] at hp
  set q := p.step '\x7b' (name ++ '\x7d' :: rest)
  have hclose : ¬ isNameChar '\x7d' = true := by decide
  have htake : (name ++ '\x7d' :: rest).takeWhile isNameChar = name := by
    rw [List.takeWhile_append_of_pos hn.2, List.takeWhile_cons_of_neg hclose, List.append_nil]
  have hdrop : (q.capture (q.past isNameChar) 1).rest = '\x7d' :: rest := by
    show (name ++ '\x7d' :: rest).dropWhile isNameChar = _
    rw [List.dropWhile_append_of_pos hn.2, List.dropWhile_cons_of_neg hclose]
  refine ⟨(q.capture (q.past isNameChar) 1).step '\x7d' rest, ?_, rfl, ?_⟩
  · rw [run_placeholder_cons hp, htake, if_pos ⟨rfl, hn.1⟩, closing, run_literal_cons hdrop]
    rfl
  · exact (lookup_capture_past q isNameChar 1).trans (congrArg some htake)

theorem begins_of_run (h : placeholderRegex.run p some ≠ none) : Begins p.rest := by
  cases hp : p.rest with
  | nil => exact absurd (run_placeholder_nil hp) h
  | cons c rest =>
    rw [run_placeholder_cons hp, ne_eq, ite_eq_right_iff, not_forall] at h
    obtain ⟨⟨rfl, hne⟩, h⟩ := h
    set q := p.step '\x7b' rest
    have hall : ∀ c ∈ rest.takeWhile isNameChar, isNameChar c = true :=
      List.all_eq_true.mp List.all_takeWhile
    have hsplit := List.takeWhile_append_dropWhile (p := isNameChar) (l := rest)
    cases hd : rest.dropWhile isNameChar with
    | nil => exact absurd (run_literal_nil (p := q.capture (q.past isNameChar) 1) hd _) h
    | cons d behind =>
      rw [closing, run_literal_cons (p := q.capture (q.past isNameChar) 1) hd] at h
      obtain rfl : d = '\x7d' := by
        by_contra hne
        exact h (if_neg (mt beq_iff_eq.mp hne))
      refine ⟨rest.takeWhile isNameChar, ⟨hne, hall⟩, behind, ?_⟩
      rw [text_param, ← hd, hsplit]

theorem run_eq_none_iff : placeholderRegex.run p some = none ↔ ¬ Begins p.rest := by
  refine ⟨fun h => ?_, fun h => not_not.mp (mt begins_of_run h)⟩
  rintro ⟨name, hn, rest, hp⟩
  obtain ⟨t, ht, -, -⟩ := run_placeholder_of_begins hn hp.symm
  rw [h] at ht
  cases ht

theorem CutBy.eq_scan (h : CutBy placeholderRegex p parts) : parts = scan none p.rest := by
  induction h with
  | ends _ hp => rw [hp]; rfl
  | found ht hname _ ih =>
    obtain ⟨name, hn, rest, hp⟩ := begins_of_run (ht ▸ Option.some_ne_none _)
    obtain ⟨t, ht', rfl, hname'⟩ := run_placeholder_of_begins hn hp.symm
    obtain rfl := Option.some.inj (ht.symm.trans ht')
    obtain rfl := Option.some.inj (hname.symm.trans hname')
    rw [← hp, scan_param hn, ih]
  | passed hnone hp _ ih =>
    have hb := run_eq_none_iff.mp hnone
    rw [hp] at hb ⊢
    rw [scan_char hb, ih]
    rfl

theorem cutBy_scan (p : Place) : CutBy placeholderRegex p (scan none p.rest) := by
  induction hl : p.rest.length using Nat.strongRecOn generalizing p with
  | ind n ih =>
    subst hl
    by_cases hb : Begins p.rest
    · obtain ⟨name, hn, rest, hp⟩ := hb
      obtain ⟨t, ht, rfl, hname⟩ := run_placeholder_of_begins hn hp.symm
      rw [← hp, scan_param hn]
      refine .found ht hname (ih _ ?_ { t with groups := [] } rfl)
      rw [← hp, text_param]
      simp only [List.length_cons, List.length_append]
      omega
    · have hnone := run_eq_none_iff.mpr hb
      cases hp : p.rest with
      | nil => exact .ends hnone hp
      | cons c rest =>
        rw [hp] at hb
        rw [scan_char hb]
        exact .passed hnone hp (ih _ (by rw [hp]; exact Nat.lt_succ_self _) (p.step c rest) rfl)

/-- The pattern cuts a text into its parts, and into no others. -/
theorem cutBy_iff (p : Place) (others : List Piece) :
    CutBy placeholderRegex p others ↔ others = scan none p.rest :=
  ⟨CutBy.eq_scan, fun h => h ▸ cutBy_scan p⟩

/-! ### Paths as the router has them -/

/-- A path falls apart, in one way, into the placeholders that the pattern matches from the left and
single characters, and the names that the parser takes from the path tell these parts from all others.
The router writes each placeholder as its parameter and keeps all else, the bare braces among it, and it
may as well do so segment by segment. -/
theorem endpointPath_rewrites (path : String) :
    "/".intercalate ((splitString '/' path).map endpointPath) = endpointPath path ∧
    splitString '/' (endpointPath path) = (splitString '/' path).map endpointPath ∧
    ∃ regex parts, Pattern.compile placeholderPattern = .ok regex ∧
      (∀ others, CutBy regex (.start path) others ↔ others = parts) ∧
      (∀ others, others.flatMap Piece.text = path.toList ∧
        (others.filterMap Piece.name?).map String.ofList = params path ↔ others = parts) ∧
      (∀ name, .param name ∈ parts → IsParamName name) ∧
      (endpointPath path).toList = parts.flatMap Piece.routed ∧
      ∀ (a b : String) (c : Char), path.toList = a.toList ++ c :: b.toList →
        IsBare a.toList c b.toList →
          (endpointPath path).toList = (endpointPath a).toList ++ c :: (endpointPath b).toList ∧
            params path = params a ++ params b := by
  have hsegments := splitString_endpointPath path
  have hjoined := intercalate_splitString '/' (endpointPath path)
  refine ⟨by rw [← hsegments]; exact hjoined, hsegments, placeholderRegex, pieces path,
    compile_placeholderPattern, cutBy_iff (.start path), fun others => ?_,
    fun name hm => isParamName_of_mem_scan mayBeName_none hm, toList_endpointPath path,
    fun a b c hp hb => ?_⟩
  · rw [params_eq_map_names, (List.map_injective_iff.mpr fun _ _ => String.ofList_injective).eq_iff]
    exact parts_eq_iff path.toList others
  · have hs := scan_of_isBare hb
    rw [params_eq_map_names, params_eq_map_names, params_eq_map_names, toList_endpointPath,
      toList_endpointPath, toList_endpointPath, hp]
    unfold routed names
    rw [hs, List.flatMap_append, List.filterMap_append,
      List.filterMap_cons_none (rfl : (Piece.char c).name? = _), List.map_append]
    exact ⟨rfl, rfl⟩

/-- Braces that are empty, stand around others or have no counterpart are kept. -/
example : endpointPath "/a\x7b\x7d/\x7bb\x7bid\x7d\x7d/\x7bc/d\x7d/\x7bx\x7d.\x7be" =
    "/a\x7b\x7d/\x7bb:id\x7d/\x7bc/d\x7d/:x.\x7be" := by
  decide +kernel

end Preflight.Routing

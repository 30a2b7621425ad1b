import Preflight.Proofs.Report.Labels

/-!
# Tags that cannot be read

Where no tag is open, a tag cannot be read if it closes one, or if looking up its name or its style ends in
a mishap (`readable_iff`), which is about a part of a color (`TagMishap.exists_part`). A text with a single
tag that counts fails as that tag does (`tagFails_of_readMarkup`), and so a configuration's tree fails as
the tag in the label of a backend does (`exists_backend_of_printed_error`).
-/

namespace Preflight.Report

open Gateway Text

/-- The name that a tag is looked up by, without the slash of a closing one. -/
def nameOf (inner : List Char) : List Char :=
  match tagName inner with
  | '/' :: name => trimBlanks name
  | name => name

/-- The mishaps of a tag: looking up its name ends in one, or looking up the style that it begins. -/
inductive TagMishap (inner : List Char) (m : Mishap) : Prop
  | name (h : normalName (nameOf inner) = .error m)
  | style {name : List Char} (hopens : inner.head? ≠ some '/') (h : normalName (nameOf inner) = .ok name)
      (hs : readStyle (tagStyle name inner) = .error m)

variable {m : Mishap} {inner name : List Char} {opened : List (List Char)} {p q : List MarkupPiece}
  {signs : List Sign}

/-! ### Colors -/

theorem exists_part_of_mapM {parts : List (List Char)} (h : parts.mapM readPart = .error m) :
    ∃ part, readPart part = .error m := by
  induction parts with
  | nil => cases h
  | cons part parts ih =>
    rw [List.mapM_cons] at h
    rcases bind_error_iff.mp h with h | ⟨n, -, h⟩
    · exact ⟨part, h⟩
    · rcases bind_error_iff.mp h with h | ⟨ns, -, h⟩
      · exact ih h
      · cases h

theorem exists_part_of_isColor {word : String} (h : isColor word = .error m) :
    ∃ part, readPart part = .error m := by
  unfold isColor isTriplet at h
  split at h
  · split at h
    · cases h
    · split at h
      · rcases bind_error_iff.mp h with h | ⟨parts, -, h⟩
        · exact exists_part_of_mapM h
        · cases h
      · cases h
  · cases h

theorem exists_part_of_colored {word : String} {next : Except Mishap (Option Style)}
    (ih : next = .error m → ∃ part, readPart part = .error m)
    (h : (do if ← isColor word then next else pure none) = .error m) : ∃ part, readPart part = .error m := by
  rcases bind_error_iff.mp h with h | ⟨isOne, -, h⟩
  · exact exists_part_of_isColor h
  · cases isOne with
    | false => cases h
    | true => exact ih h

theorem exists_part_of_read {style : Style} {words : List String} (h : style.read words = .error m) :
    ∃ part, readPart part = .error m := by
  fun_induction Style.read style words with
  | case2 style word color words hw ih => exact exists_part_of_colored ih h
  | case3 style word name words hw name' hn ih => exact ih h
  | case5 style word url words hw ih => exact ih h
  | case9 => rename_i ih; exact ih h
  | case10 => rename_i ih; exact exists_part_of_colored ih h
  | _ => cases h

theorem exists_part_of_readStyle {text : List Char} (h : readStyle text = .error m) :
    ∃ part, readPart part = .error m := by
  unfold readStyle at h
  dsimp only at h
  split at h
  · cases h
  · exact exists_part_of_read h

theorem normalName_error_iff : normalName name = .error m ↔ readStyle name = .error m := by
  unfold normalName
  rw [bind_error_iff]
  constructor
  · rintro (h | ⟨style, -, h⟩)
    · exact h
    · cases style <;> cases h
  · exact .inl

/-- The mishap of a tag is about a part of a color that is missing or too long. -/
theorem TagMishap.exists_part (h : TagMishap inner m) : ∃ part, readPart part = .error m := by
  cases h with
  | name h => exact exists_part_of_readStyle (normalName_error_iff.mp h)
  | style _ _ hs => exact exists_part_of_readStyle hs

/-! ### Tags -/

theorem nameOf_closing (h : tagName inner = '/' :: name) : nameOf inner = trimBlanks name := by
  rw [nameOf, h]
  rfl

theorem nameOf_opening (h : ∀ name, tagName inner ≠ '/' :: name) : nameOf inner = tagName inner := by
  unfold nameOf
  split
  · next name hn => exact absurd hn (h name)
  · rfl

theorem head_tagName : (tagName inner).head? = some '/' ↔ inner.head? = some '/' := by
  cases inner with
  | nil => exact Iff.rfl
  | cons c inner =>
    unfold tagName
    rw [List.takeWhile_cons]
    split
    · exact Iff.rfl
    · next hc =>
      have hc : c = '=' := by simpa using hc
      simp [hc]

theorem normalName_nil : normalName [] = .ok "none".toList := rfl

theorem closeTag_mishap_iff {position : Nat} :
    closeTag position inner name opened = .error (.mishap m) ↔ normalName (trimBlanks name) = .error m := by
  unfold closeTag
  split
  · next hn =>
    rw [hn, normalName_nil]
    constructor
    · intro h
      cases opened <;> cases h
    · intro h
      cases h
  · rw [bind_error_iff]
    constructor
    · rintro (h | ⟨known, -, h⟩)
      · obtain ⟨m', hm, he⟩ := mapError_error_iff.mp h
        cases he
        exact hm
      · split at h <;> cases h
    · exact fun h => .inl (mapError_error_iff.mpr ⟨m, h, rfl⟩)

theorem readTag_mishap_iff {position : Nat} :
    readTag position inner opened = .error (.mishap m) ↔ normalName (nameOf inner) = .error m := by
  unfold readTag
  split
  · next name hn =>
    rw [nameOf_closing hn, bind_error_iff, closeTag_mishap_iff]
    constructor
    · rintro (h | ⟨tags, -, h⟩)
      · exact h
      · cases h
    · exact .inl
  · next hn =>
    rw [nameOf_opening hn, bind_error_iff]
    constructor
    · rintro (h | ⟨known, -, h⟩)
      · obtain ⟨m', hm, he⟩ := mapError_error_iff.mp h
        cases he
        exact hm
      · cases h
    · exact fun h => .inl (mapError_error_iff.mpr ⟨m, h, rfl⟩)

theorem readTag_fault {position : Nat} {fault : MarkupFault}
    (h : readTag position inner opened = .error (.fault fault)) : inner.head? = some '/' := by
  unfold readTag at h
  split at h
  · next heq => exact head_tagName.mp (by rw [heq]; rfl)
  · rcases bind_error_iff.mp h with h | ⟨known, -, h⟩
    · obtain ⟨m', -, he⟩ := mapError_error_iff.mp h
      cases he
    · cases h

/-- A tag that opens a style is read exactly if its name can be looked up. -/
theorem readTag_opening (h : inner.head? ≠ some '/') {position : Nat} :
    readTag position inner opened = (normalName (nameOf inner)).mapError .mishap >>= fun name =>
      pure (name :: opened, some (tagStyle name inner)) := by
  have hno (name : List Char) : tagName inner ≠ '/' :: name := fun hn =>
    h (head_tagName.mp (by rw [hn]; rfl))
  rw [nameOf_opening hno]
  unfold readTag
  split
  · next name hn => exact absurd hn (hno name)
  · rfl

/-- Where no tag is open none can be closed. -/
theorem readTag_closing (h : inner.head? = some '/') {position : Nat}
    {read : List (List Char) × Option (List Char)} : readTag position inner [] ≠ .ok read := by
  obtain ⟨rest, hr⟩ := List.head?_eq_some_iff.mp (head_tagName.mpr h)
  unfold readTag
  rw [hr]
  intro h
  obtain ⟨tags, ht, -⟩ := bind_ok_iff.mp h
  unfold closeTag at ht
  split at ht
  · cases ht
  · obtain ⟨known, -, ht⟩ := bind_ok_iff.mp ht
    cases ht

theorem isRead_iff {style : List Char} :
    (Sign.tag (some style)).isRead = true ↔ ∀ m, readStyle style ≠ .error m := by
  cases hs : readStyle style with
  | ok found =>
    have hread : (Sign.tag (some style)).lookUp = .ok () := by rw [Sign.lookUp, hs]; rfl
    rw [Sign.isRead, hread]
    refine ⟨fun _ m he => ?_, fun _ => rfl⟩
    cases he
  | error m =>
    have hread : (Sign.tag (some style)).lookUp = .error m := by rw [Sign.lookUp, hs]; rfl
    rw [Sign.isRead, hread]
    exact ⟨fun h => (Bool.false_ne_true h).elim, fun h => absurd rfl (h m)⟩

/-- A tag can be read where no other one is open unless it closes one or its style cannot be looked up. -/
theorem readable_iff : Readable inner ↔ inner.head? ≠ some '/' ∧ ∀ m, ¬ TagMishap inner m := by
  unfold Readable readTag?
  by_cases hslash : inner.head? = some '/'
  · refine ⟨fun h => ?_, fun h => absurd hslash h.1⟩
    cases hr : readTag 0 inner [] with
    | error failure => rw [hr] at h; cases h
    | ok read => exact absurd hr (readTag_closing hslash)
  · rw [readTag_opening hslash, and_iff_right hslash]
    cases hn : normalName (nameOf inner) with
    | error m => exact ⟨fun h => (Bool.false_ne_true h).elim, fun h => absurd (.name hn) (h m)⟩
    | ok known =>
      show ((some (known :: [], some (tagStyle known inner))).filter
        fun read => (Sign.tag read.2).isRead).isSome = true ↔ _
      rw [Option.isSome_filter, Option.any_some, isRead_iff]
      constructor
      · intro h m hm
        cases hm with
        | name h' => rw [hn] at h'; cases h'
        | style _ h' hs =>
          rw [hn] at h'
          cases h'
          exact h m hs
      · exact fun h m hm => h m (.style hslash hn hm)

/-! ### Labels -/

/-- How a tag fails where no other one is open. -/
inductive TagFails (inner : List Char) : Failure MarkupFault → Prop
  | closes {fault : MarkupFault} (h : inner.head? = some '/') : TagFails inner (.fault fault)
  | mishap {m : Mishap} (h : TagMishap inner m) : TagFails inner (.mishap m)

/-- Parts without a tag that counts are shown, and the parts behind them as if they stood there alone. -/
theorem exists_showPieces_append (hp : Inert p) (hq : ∀ r, q ≠ .char '[' :: r) (i : Nat)
    (opened : List (List Char)) :
    ∃ j before, before.all Sign.isRead = true ∧
      showPieces i opened (p ++ q) = (before ++ ·) <$> showPieces j opened q := by
  fun_induction showPieces i opened p with
  | case1 i opened =>
    refine ⟨i, [], rfl, ?_⟩
    rw [List.nil_append]
    cases showPieces i opened q <;> rfl
  | case2 i opened p ih =>
    obtain ⟨j, before, hb, h⟩ := ih fun piece hm => hp piece (List.mem_cons_of_mem _ (List.mem_cons_of_mem _ hm))
    refine ⟨j, .char '[' :: before, hb, ?_⟩
    rw [List.cons_append, List.cons_append, showPieces, h]
    cases showPieces j opened q <;> rfl
  | case3 i opened c p hc ih =>
    obtain ⟨j, before, hb, h⟩ := ih fun piece hm => hp piece (List.mem_cons_of_mem _ hm)
    refine ⟨j, .char c :: before, hb, ?_⟩
    rw [List.cons_append, showPieces, h]
    · cases showPieces j opened q <;> rfl
    · -- a backslash at the end would go with a bracket at the head of `q`
      intro r hr he
      cases p with
      | nil => exact hq r hr
      | cons piece p =>
        rw [List.cons_append] at hr
        obtain ⟨rfl, rfl⟩ := List.cons.inj hr
        exact hc _ rfl he
  | case4 i opened n inner p next hn ih =>
    obtain ⟨j, before, hb, h⟩ := ih fun piece hm => hp piece (List.mem_cons_of_mem _ hm)
    refine ⟨j, plainTag (n / 2) inner ++ before, ?_, ?_⟩
    · rw [plainTag, List.cons_append, List.all_cons, List.all_append, List.all_append, all_isRead_map, hb]
      rfl
    · rw [List.cons_append, showPieces, if_pos hn, h]
      cases showPieces j opened q with
      | error e => rfl
      | ok signs => exact congrArg Except.ok (by simp [plainTag])
  | case5 i opened n inner p next hn ih => exact absurd (hp _ List.mem_cons_self n inner rfl) hn

theorem exists_showPieces_inert (hp : Inert p) (i : Nat) (opened : List (List Char)) :
    ∃ signs, showPieces i opened p = .ok signs ∧ signs.all Sign.isRead = true := by
  obtain ⟨j, before, hb, h⟩ := exists_showPieces_append hp (q := []) (fun _ h => by cases h) i opened
  rw [List.append_nil] at h
  exact ⟨before ++ [], h, by rwa [List.append_nil]⟩

theorem exists_lookUp_error (h : signs.forM Sign.lookUp = .error m) :
    ∃ sign ∈ signs, sign.lookUp = .error m := by
  induction signs with
  | nil => cases h
  | cons sign signs ih =>
    rcases bind_error_iff.mp h with h | ⟨u, -, h⟩
    · exact ⟨sign, List.mem_cons_self, h⟩
    · obtain ⟨other, hm, he⟩ := ih h
      exact ⟨other, List.mem_cons_of_mem _ hm, he⟩

theorem Sign.lookUp_of_isRead {sign : Sign} (h : sign.isRead = true) : sign.lookUp ≠ .error m := by
  intro he
  rw [Sign.isRead, he] at h
  cases h

/-- Of signs that begin one style that may not be looked up, it is that one which is not. -/
theorem readStyle_of_forM {before rest : List Sign} {style : List Char}
    (hb : before.all Sign.isRead = true) (hr : rest.all Sign.isRead = true)
    (h : (before ++ .tag (some style) :: rest).forM Sign.lookUp = .error m) : readStyle style = .error m := by
  obtain ⟨sign, hm, he⟩ := exists_lookUp_error h
  rcases List.mem_append.mp hm with hm | hm
  · exact absurd he (Sign.lookUp_of_isRead (List.all_eq_true.mp hb _ hm))
  · rcases List.mem_cons.mp hm with rfl | hm
    · rcases bind_error_iff.mp he with he | ⟨_, -, he⟩
      · exact he
      · cases he
    · exact absurd he (Sign.lookUp_of_isRead (List.all_eq_true.mp hr _ hm))

theorem exists_forM_error {s : List Char} {failure : Failure MarkupFault}
    (hs : showPieces 0 [] (markupPieces s) = .ok signs) (h : readMarkup s = .error failure) :
    ∃ m, failure = .mishap m ∧ signs.forM Sign.lookUp = .error m := by
  unfold readMarkup at h
  rw [hs] at h
  rcases bind_error_iff.mp h with h | ⟨_, _, h⟩
  · cases h
  · rcases bind_error_iff.mp h with h | ⟨_, _, h⟩
    · obtain ⟨m, hm, rfl⟩ := mapError_error_iff.mp h
      exact ⟨m, rfl, by simp_all⟩
    · cases h

/-- A text with a single tag that counts fails as the tag does. -/
theorem tagFails_of_readMarkup {s : List Char} {n : Nat} {failure : Failure MarkupFault} (hp : Inert p)
    (hq : Inert q) (hn : n % 2 = 0) (hscan : markupPieces s = p ++ .tag n inner :: q)
    (h : readMarkup s = .error failure) : TagFails inner failure := by
  obtain ⟨j, before, hbefore, hshow⟩ :=
    exists_showPieces_append hp (q := .tag n inner :: q) (fun r hr => by cases hr) 0 []
  rw [← hscan, showPieces, if_neg (by omega)] at hshow
  cases hr : readTag (j + n) inner [] with
  | error found =>
    have hread : readMarkup s = .error found := by
      unfold readMarkup
      rw [hshow, hr]
      rfl
    obtain rfl : found = failure := Except.error.inj (hread.symm.trans h)
    cases found with
    | fault fault => exact .closes (readTag_fault hr)
    | mishap m => exact .mishap (.name (readTag_mishap_iff.mp hr))
  | ok read =>
    -- the tag begins a style, the only one that may not be looked up
    have hopens : inner.head? ≠ some '/' := fun hh => readTag_closing hh hr
    have hopening := hr
    rw [readTag_opening hopens] at hopening
    obtain ⟨known, hknown, he⟩ := bind_ok_iff.mp hopening
    cases he
    obtain ⟨rest, hrest, hread⟩ :=
      exists_showPieces_inert hq (j + n + inner.length + 2) [known]
    have hsigns : showPieces 0 [] (markupPieces s) =
        .ok (before ++ ((List.replicate (n / 2) '\\').map Sign.char ++
          .tag (some (tagStyle known inner)) :: rest)) := by
      rw [hshow, hr]
      show (before ++ ·) <$> (showPieces (j + n + inner.length + 2) [known] q >>= _) = _
      rw [hrest]
      rfl
    obtain ⟨m, rfl, hm⟩ := exists_forM_error hsigns h
    rw [← List.append_assoc] at hm
    refine .mishap (.style hopens (mapError_ok_iff.mp hknown) (readStyle_of_forM ?_ hread hm))
    rw [List.all_append, hbefore, all_isRead_map]
    rfl

variable {endpoint : EndpointConfig} {backend : BackendConfig} {failure : Failure MarkupFault}

theorem backendLabel_error (h : readMarkup (backendLabel endpoint backend).toList = .error failure) :
    ∃ inner, tagInLabel? endpoint backend = some inner ∧ TagFails inner failure := by
  rcases pair_inert_or (methodFor endpoint backend).toList backend.urlPattern.toList with
    ⟨hc, -⟩ | ⟨inner, p, q, n, hc, hp, hq, hn, hscan⟩
  · have hlabel : ReadableLabel endpoint backend := fun inner hi => absurd (hc.symm.trans hi) (by simp)
    obtain ⟨signs, hs⟩ := showable_backendLabel_iff.mpr hlabel
    rw [hs] at h
    cases h
  · refine ⟨inner, hc, tagFails_of_readMarkup (inert_append (inert_map_char "backend ".toList) hp) hq hn ?_ h⟩
    rw [toList_backendLabel, markupPieces, scanMarkup_tagless (by decide), List.append_assoc, ← hscan]
    rfl

/-! ### Trees -/

mutual

theorem exists_label_of_lines_error (screen : Screen) (tree : LabelTree) (first other : List Char)
    (h : tree.lines screen first other = .error failure) :
    ∃ label ∈ tree.labels, readMarkup label.toList = .error failure := by
  obtain ⟨kind, label, children⟩ := tree
  rw [LabelTree.labels]
  rw [LabelTree.lines] at h
  rcases bind_error_iff.mp h with h | ⟨own, -, h⟩
  · rcases bind_error_iff.mp h with h | ⟨_, _, h⟩
    · exact ⟨label, List.mem_cons_self, map_error_iff.mp h⟩
    · cases h
  · rcases bind_error_iff.mp h with h | ⟨_, _, h⟩
    · obtain ⟨l, hl, he⟩ := exists_label_of_childLines_error screen children other h
      exact ⟨l, List.mem_cons_of_mem _ hl, he⟩
    · cases h

theorem exists_label_of_childLines_error (screen : Screen) (children : List LabelTree) (above : List Char)
    (h : childLines screen above children = .error failure) :
    ∃ label ∈ childLabels children, readMarkup label.toList = .error failure := by
  cases children with
  | nil => cases h
  | cons child children =>
    rw [childLabels]
    rw [childLines] at h
    rcases bind_error_iff.mp h with h | ⟨own, -, h⟩
    · obtain ⟨l, hl, he⟩ := exists_label_of_lines_error screen child _ _ h
      exact ⟨l, List.mem_append_left _ hl, he⟩
    · rcases bind_error_iff.mp h with h | ⟨_, _, h⟩
      · obtain ⟨l, hl, he⟩ := exists_label_of_childLines_error screen children above h
        exact ⟨l, List.mem_append_right _ hl, he⟩
      · cases h

end

/-- A configuration's tree that cannot be drawn shows a backend whose label fails in the same way. -/
theorem exists_backend_of_printed_error {screen : Screen} {level : Int} {lead : String}
    {service : ServiceConfig} {tree : LabelTree} (hs : service.Parsed)
    (ht : configTree level lead service = .ok tree) (h : tree.printed screen = .error failure) :
    2 ≤ level ∧ ∃ endpoint ∈ service.endpoints, ∃ backend ∈ endpoint.backends, ∃ inner,
      tagInLabel? endpoint backend = some inner ∧ TagFails inner failure := by
  have hlines : ∃ label ∈ tree.labels, readMarkup label.toList = .error failure := by
    rcases bind_error_iff.mp h with h | ⟨_, _, h⟩
    · exact exists_label_of_lines_error screen tree [] [] h
    · cases h
  obtain ⟨label, hl, he⟩ := hlines
  -- all other labels of the tree can be shown
  by_contra hnone
  have hall := (forall_configTree (fun label => readMarkup label.toList ≠ .error failure)
    (fun label ⟨signs, hsigns⟩ hf => by rw [hsigns] at hf; cases hf) hs ht).mpr
  refine hall (fun h2 endpoint hen backend hb hf => hnone ⟨h2, endpoint, hen, backend, hb, ?_⟩) label hl he
  exact backendLabel_error hf

end Preflight.Report

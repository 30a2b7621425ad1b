import Preflight.Proofs.Report.Emoji
import Preflight.Proofs.Report.Escape
import Preflight.Proofs.Results

/-!
# What is shown of a text

Where a part stands does not matter for what is shown of it, only for the fault if it cannot be shown
(`showPieces_toOption`), so what is shown of some parts can be put together (`shown?`). Whether it can be
shown depends on the tags that count (`isSome_shown?_append`), and of a text without backslashes all but
these tags is shown as it is (`Spells.shown?_guarded`).
-/

namespace Preflight.Report

open Text

variable {opened : List (List Char)} {pieces p q : List MarkupPiece} {n : Nat} {s inner : List Char}
  {signs : List Sign}

/-! ### Positions -/

theorem closeTag_toOption (i j : Nat) (inner name : List Char) (opened : List (List Char)) :
    (closeTag i inner name opened).toOption = (closeTag j inner name opened).toOption := by
  unfold closeTag
  split
  · cases opened <;> rfl
  · rw [toOption_bind, toOption_bind]
    congr 1
    funext name
    split <;> rfl

theorem readTag_toOption (i j : Nat) (inner : List Char) (opened : List (List Char)) :
    (readTag i inner opened).toOption = (readTag j inner opened).toOption := by
  unfold readTag
  split
  · rw [toOption_bind, toOption_bind, closeTag_toOption i j]
  · rfl

/-- What is shown does not depend on where it stands. -/
theorem showPieces_toOption (i j : Nat) (opened : List (List Char)) (pieces : List MarkupPiece) :
    (showPieces i opened pieces).toOption = (showPieces j opened pieces).toOption := by
  fun_induction showPieces i opened pieces generalizing j with
  | case1 => rfl
  | case2 i opened pieces ih =>
    rw [showPieces, toOption_map, toOption_map, ih (j + 2)]
  | case3 i opened c pieces hc ih =>
    rw [showPieces, toOption_map, toOption_map, ih (j + 1)]
    exact hc
  | case4 i opened n inner pieces next hn ih =>
    rw [showPieces, if_pos hn]
    rw [toOption_bind, toOption_bind, ih]
  | case5 i opened n inner pieces next hn ih =>
    rw [showPieces, if_neg hn]
    rw [toOption_bind, toOption_bind, readTag_toOption _ (j + n)]
    congr 1
    funext ⟨opened, style⟩
    rw [toOption_bind, toOption_bind, ih opened]

/-! ### Putting together what is shown -/

/-- Whether a sign begins no style that cannot be looked up. -/
def Sign.isRead (sign : Sign) : Bool := sign.lookUp.toOption.isSome

theorem lookUp_ok_iff : signs.forM Sign.lookUp = .ok () ↔ signs.all Sign.isRead = true := by
  induction signs with
  | nil => exact ⟨fun _ => rfl, fun _ => rfl⟩
  | cons sign signs ih =>
    show (sign.lookUp >>= fun _ => signs.forM Sign.lookUp) = _ ↔ _
    rw [bind_ok_iff, List.all_cons, Bool.and_eq_true, ← ih]
    unfold Sign.isRead
    cases sign.lookUp with
    | ok u => simp [Except.toOption]
    | error m => simp [Except.toOption]

/-- What is left of some parts while some tags are open, if it can be shown. -/
def shown? (opened : List (List Char)) (pieces : List MarkupPiece) : Option (List Sign) :=
  (showPieces 0 opened pieces).toOption.filter (·.all Sign.isRead)

/-- What a tag does to the open ones and the style that it begins, if it can be read. -/
def readTag? (inner : List Char) (opened : List (List Char)) :
    Option (List (List Char) × Option (List Char)) :=
  (readTag 0 inner opened).toOption.filter fun read => (Sign.tag read.2).isRead

theorem readMarkup_ok_iff : readMarkup s = .ok signs ↔ shown? [] (markupPieces s) = some signs := by
  unfold readMarkup shown?
  rw [bind_ok_iff, Option.filter_eq_some_iff]
  constructor
  · rintro ⟨found, hs, h⟩
    obtain ⟨_, hl, h⟩ := bind_ok_iff.mp h
    cases h
    rw [hs]
    exact ⟨rfl, lookUp_ok_iff.mp (mapError_ok_iff.mp hl)⟩
  · rintro ⟨hs, hl⟩
    cases hp : showPieces 0 [] (markupPieces s) with
    | error failure =>
      rw [hp] at hs
      cases hs
    | ok found =>
      rw [hp] at hs
      cases hs
      exact ⟨_, rfl, bind_ok_iff.mpr ⟨(), mapError_ok_iff.mpr (lookUp_ok_iff.mpr hl), rfl⟩⟩

theorem filter_map_append {o : Option (List Sign)} (hs : signs.all Sign.isRead = true) :
    (o.map (signs ++ ·)).filter (·.all Sign.isRead) =
      (o.filter (·.all Sign.isRead)).map (signs ++ ·) := by
  cases o with
  | none => rfl
  | some rest => simp [Option.filter, List.all_append, hs]

theorem filter_map_char (c : Char) (o : Option (List Sign)) :
    (o.map (.char c :: ·)).filter (·.all Sign.isRead) =
      (o.filter (·.all Sign.isRead)).map (.char c :: ·) := by
  have hread : [Sign.char c].all Sign.isRead = true := rfl
  exact filter_map_append hread

theorem all_isRead_map (s : List Char) : (s.map Sign.char).all Sign.isRead = true := by
  rw [List.all_map]
  exact List.all_eq_true.mpr fun _ _ => rfl

theorem shown?_char {c : Char} (hc : c ≠ '\\') :
    shown? opened (.char c :: p) = (shown? opened p).map (.char c :: ·) := by
  unfold shown?
  rw [showPieces, toOption_map, showPieces_toOption _ 0]
  · exact filter_map_char c _
  · exact fun _ _ he => absurd he hc

/-- A tag that is plain text, with half of the backslashes that are to be there before it. -/
def plainTag (n : Nat) (inner : List Char) : List Sign :=
  .tag none :: ((MarkupPiece.tag n inner).text.map .char ++ [.tag none])

theorem shown?_odd (hn : n % 2 = 1) : shown? opened (.tag n inner :: p) =
    (shown? opened p).map (plainTag (n / 2) inner ++ ·) := by
  have hread : (plainTag (n / 2) inner).all Sign.isRead = true := by
    rw [plainTag, List.all_cons, List.all_append, all_isRead_map]
    rfl
  have hsigns (rest : List Sign) : plainTag (n / 2) inner ++ rest =
      .tag none :: ((MarkupPiece.tag (n / 2) inner).text.map .char ++ .tag none :: rest) := by
    rw [plainTag, List.cons_append, List.append_assoc]
    rfl
  unfold shown?
  rw [showPieces, if_pos hn, toOption_bind, showPieces_toOption _ 0, ← filter_map_append hread]
  cases (showPieces 0 opened p).toOption with
  | none => rfl
  | some rest => exact congrArg (Option.filter _) (congrArg some (hsigns rest).symm)

theorem shown?_even (hn : n % 2 = 0) : shown? opened (.tag n inner :: p) =
    (readTag? inner opened).bind fun read => (shown? read.1 p).map
      ((List.replicate (n / 2) '\\').map Sign.char ++ .tag read.2 :: ·) := by
  unfold shown? readTag?
  rw [showPieces, if_neg (by omega), toOption_bind, readTag_toOption _ 0]
  cases (readTag 0 inner opened).toOption with
  | none => rfl
  | some read =>
    obtain ⟨opened, style⟩ := read
    rw [Option.bind_some, toOption_bind, showPieces_toOption _ 0]
    by_cases he : (Sign.tag style).isRead = true
    · have hread : ((List.replicate (n / 2) '\\').map Sign.char ++ [Sign.tag style]).all Sign.isRead =
          true := by
        rw [List.all_append, all_isRead_map, List.all_cons, he]
        rfl
      have hfilter : (some (opened, style)).filter (fun read => (Sign.tag read.2).isRead) =
          some (opened, style) := if_pos he
      have hmap := filter_map_append hread (o := (showPieces 0 opened p).toOption)
      simp only [List.append_assoc, List.singleton_append] at hmap
      rw [hfilter, Option.bind_some, ← hmap]
      cases (showPieces 0 opened p).toOption <;> rfl
    · have hfilter : (some (opened, style)).filter (fun read => (Sign.tag read.2).isRead) = none :=
        if_neg he
      rw [hfilter, Option.bind_none]
      cases (showPieces 0 opened p).toOption with
      | none => rfl
      | some rest =>
        refine if_neg fun hall => he ?_
        dsimp only at hall
        rw [List.all_append, List.all_cons, Bool.and_eq_true, Bool.and_eq_true] at hall
        exact hall.2.1

/-! ### Whether parts can be shown -/

theorem shown?_backslash_bracket :
    shown? opened (.char '\\' :: .char '[' :: p) = (shown? opened p).map (.char '[' :: ·) := by
  unfold shown?
  rw [showPieces, toOption_map, showPieces_toOption _ 0]
  exact filter_map_char '[' _

theorem shown?_backslash (h : ∀ q, p ≠ .char '[' :: q) :
    shown? opened (.char '\\' :: p) = (shown? opened p).map (.char '\\' :: ·) := by
  unfold shown?
  rw [showPieces, toOption_map, showPieces_toOption _ 0]
  · exact filter_map_char '\\' _
  · exact fun q he _ => h q he

theorem isSome_shown?_char (c : Char) :
    (shown? opened (.char c :: p)).isSome = (shown? opened p).isSome := by
  by_cases hc : c = '\\'
  · subst hc
    by_cases hb : ∃ q, p = .char '[' :: q
    · -- the backslash is dropped and the bracket shown, as the bracket alone would be
      obtain ⟨q, rfl⟩ := hb
      rw [shown?_backslash_bracket, shown?_char (by decide), Option.isSome_map]
    · rw [shown?_backslash fun q hq => hb ⟨q, hq⟩, Option.isSome_map]
  · rw [shown?_char hc, Option.isSome_map]

/-- Parts without a tag that counts do not matter for whether others can be shown. -/
theorem isSome_shown?_append (h : Inert p) :
    (shown? opened (p ++ q)).isSome = (shown? opened q).isSome := by
  induction p with
  | nil => rfl
  | cons piece p ih =>
    have hp : Inert p := fun other hm => h other (List.mem_cons_of_mem _ hm)
    cases piece with
    | char c => rw [List.cons_append, isSome_shown?_char, ih hp]
    | tag n inner =>
      rw [List.cons_append, shown?_odd (h _ List.mem_cons_self n inner rfl), Option.isSome_map, ih hp]

theorem isSome_shown?_inert (h : Inert p) : (shown? opened p).isSome = true := by
  have ha : (shown? opened (p ++ [])).isSome = (shown? opened []).isSome := isSome_shown?_append h
  rwa [List.append_nil] at ha

/-! ### Text without backslashes -/

/-- A part of a text without backslashes. -/
def MarkupPiece.IsBare : MarkupPiece → Prop
  | .char c => c ≠ '\\'
  | .tag n _ => n = 0

/-- A text without backslashes has parts that are without them, and ends in none. -/
theorem Scanned.bare {k : Nat} (h : Scanned k s pieces n) (hk : k = 0) (hs : '\\' ∉ s) :
    n = 0 ∧ ∀ piece ∈ pieces, piece.IsBare := by
  induction h with
  | done => exact ⟨hk, List.forall_mem_nil _⟩
  | backslash => exact absurd List.mem_cons_self hs
  | plain hb _ _ ih =>
    subst hk
    obtain ⟨hn, hp⟩ := ih rfl fun hm => hs (List.mem_cons_of_mem _ hm)
    exact ⟨hn, List.forall_mem_cons.mpr ⟨hb, hp⟩⟩
  | tag _ _ ih =>
    obtain ⟨hn, hp⟩ := ih rfl fun hm => hs (List.mem_cons_of_mem _ (List.mem_of_mem_drop hm))
    exact ⟨hn, List.forall_mem_cons.mpr ⟨hk, hp⟩⟩

/-- Parts without backslashes, and the text that they are the parts of. -/
structure Spells (pieces : List MarkupPiece) (s : List Char) : Prop where
  text : pieces.flatMap MarkupPiece.text = s
  bare : ∀ piece ∈ pieces, piece.IsBare

theorem Scanned.spells (h : Scanned 0 s pieces n) (hs : '\\' ∉ s) : n = 0 ∧ Spells pieces s := by
  obtain ⟨rfl, hp⟩ := h.bare rfl hs
  have htext := flatMap_text_scanMarkup 0 0 s
  rw [h.scan_eq, List.replicate_zero, List.append_nil] at htext
  exact ⟨rfl, htext, hp⟩

/-- What is left of a part that is plain text. -/
def MarkupPiece.plain : MarkupPiece → List Sign
  | .char c => [.char c]
  | .tag n inner => plainTag n inner

theorem letters_plainTag (n : Nat) (inner : List Char) :
    letters (plainTag n inner) = (MarkupPiece.tag n inner).text := by
  rw [plainTag, letters_tag, letters_append, letters_map_char, letters_tag, letters_nil, List.append_nil]

theorem letters_flatMap_plain (p : List MarkupPiece) :
    letters (p.flatMap MarkupPiece.plain) = p.flatMap MarkupPiece.text := by
  induction p with
  | nil => rfl
  | cons piece p ih =>
    rw [List.flatMap_cons, letters_append, ih, List.flatMap_cons]
    cases piece with
    | char c => rfl
    | tag n inner => rw [MarkupPiece.plain, letters_plainTag]

/-- Such parts are shown as they are once they are guarded. -/
theorem Spells.shown?_guarded (h : Spells p s) : shown? opened (p.map MarkupPiece.guarded ++ q) =
    (shown? opened q).map (p.flatMap MarkupPiece.plain ++ ·) := by
  obtain ⟨rfl, hbare⟩ := h
  induction p with
  | nil => simp
  | cons piece p ih =>
    obtain ⟨hb, hp⟩ := List.forall_mem_cons.mp hbare
    cases piece with
    | char c =>
      show shown? opened (.char c :: (p.map MarkupPiece.guarded ++ q)) = _
      rw [shown?_char hb, ih hp, Option.map_map]
      rfl
    | tag n inner =>
      obtain rfl : n = 0 := hb
      show shown? opened (.tag 1 inner :: (p.map MarkupPiece.guarded ++ q)) = _
      rw [shown?_odd rfl, ih hp, Option.map_map, List.flatMap_cons]
      congr 1
      funext r
      simp [MarkupPiece.plain]

theorem Spells.letters_plain (h : Spells p s) : letters (p.flatMap MarkupPiece.plain) = s := by
  rw [letters_flatMap_plain, h.text]

theorem shown?_tagless (hs : Tagless s) :
    shown? opened (s.map .char ++ q) = (shown? opened q).map (s.map Sign.char ++ ·) := by
  induction s with
  | nil => simp
  | cons c s ih =>
    obtain ⟨hc, hs⟩ := List.forall_mem_cons.mp hs
    rw [List.map_cons, List.cons_append, shown?_char hc.2, ih hs, Option.map_map]
    rfl

/-- The characters that are left of some parts, if they can be shown. -/
def spelled? (opened : List (List Char)) (pieces : List MarkupPiece) : Option (List Char) :=
  (shown? opened pieces).map letters

theorem Spells.spelled?_guarded (h : Spells p s) :
    spelled? opened (p.map MarkupPiece.guarded ++ q) = (spelled? opened q).map (s ++ ·) := by
  unfold spelled?
  rw [h.shown?_guarded, Option.map_map, Option.map_map]
  congr 1
  funext signs
  rw [Function.comp_apply, Function.comp_apply, letters_append, h.letters_plain]

theorem spelled?_tagless (hs : Tagless s) :
    spelled? opened (s.map .char ++ q) = (spelled? opened q).map (s ++ ·) := by
  unfold spelled?
  rw [shown?_tagless hs, Option.map_map, Option.map_map]
  congr 1
  funext signs
  rw [Function.comp_apply, Function.comp_apply, letters_append, letters_map_char]

/-! ### Styled text -/

/-- A name that a tag begins a style by, which is known as another one. -/
structure StyleName (name known : List Char) : Prop where
  starts : name.head?.any startsTag = true
  opens : name.head? ≠ some '/'
  bare : Bracketless name
  whole : tagName name = name
  trim : trimBlanks name = name
  style : tagStyle known name = known
  normal : (normalName name).toOption = some known
  isRead : (Sign.tag (some known)).isRead = true

variable {name known : List Char}

theorem StyleName.normalName_eq (h : StyleName name known) : normalName name = .ok known :=
  eq_ok_of_toOption h.normal

theorem StyleName.readTag_opening (h : StyleName name known) :
    readTag? name opened = some (known :: opened, some known) := by
  have hread : readTag 0 name opened = .ok (known :: opened, some known) := by
    unfold readTag
    rw [h.whole]
    split
    · exact absurd rfl h.opens
    · rw [h.normalName_eq]
      show Except.ok (known :: opened, some (tagStyle known name)) = _
      rw [h.style]
  unfold readTag?
  rw [hread]
  exact if_pos h.isRead

theorem StyleName.readTag_closing (h : StyleName name known) :
    readTag? ('/' :: name) (known :: opened) = some (opened, none) := by
  have hname : tagName ('/' :: name) = '/' :: name := by
    rw [tagName, List.takeWhile_cons_of_pos (by decide)]
    exact congrArg _ h.whole
  have hclose : closeNamed known (known :: opened) = some opened := if_pos rfl
  have htrim := h.trim
  have hnormal := h.normalName_eq
  have hread : readTag 0 ('/' :: name) (known :: opened) = .ok (opened, none) := by
    unfold readTag closeTag
    rw [hname]
    cases name with
    | nil => exact absurd h.starts (by decide)
    | cons c name =>
      simp only [htrim, hnormal]
      refine bind_ok_iff.mpr ⟨opened, bind_ok_iff.mpr ⟨known, rfl, ?_⟩, rfl⟩
      rw [hclose]
      rfl
  unfold readTag?
  rw [hread]
  rfl

theorem StyleName.shown?_opening (h : StyleName name known) (t : List Char) :
    shown? opened (markupPieces ('[' :: (name ++ ']' :: t))) =
      (shown? (known :: opened) (markupPieces t)).map (.tag (some known) :: ·) := by
  have hscan : markupPieces ('[' :: (name ++ ']' :: t)) = .tag 0 name :: markupPieces t := by
    rw [markupPieces, scanMarkup_tag (tagInner?_of_bracketless h.starts h.bare t)]
    simp [markupPieces]
  rw [hscan, shown?_even rfl, h.readTag_opening]
  rfl

theorem StyleName.spelled?_opening (h : StyleName name known) (t : List Char) :
    spelled? opened (markupPieces ('[' :: (name ++ ']' :: t))) =
      spelled? (known :: opened) (markupPieces t) := by
  unfold spelled?
  rw [h.shown?_opening, Option.map_map]
  rfl

theorem StyleName.scanMarkup_closing (h : StyleName name known) (n : Nat) (t : List Char) :
    scanMarkup 0 n ('[' :: '/' :: (name ++ ']' :: t)) = .tag n ('/' :: name) :: markupPieces t := by
  have hbare : Bracketless ('/' :: name) := List.forall_mem_cons.mpr ⟨by decide, h.bare⟩
  have hscan := scanMarkup_tag (tagInner?_of_bracketless rfl hbare t) n
  rw [List.cons_append] at hscan
  rw [hscan]
  simp [markupPieces]

/-- Behind the tag that closes a style, if it counts, the style is no longer open. -/
theorem StyleName.shown?_closing (h : StyleName name known) (hn : n % 2 = 0) (t : List Char) :
    shown? (known :: opened) (scanMarkup 0 n ('[' :: '/' :: (name ++ ']' :: t))) =
      (shown? opened (markupPieces t)).map
        ((List.replicate (n / 2) '\\').map Sign.char ++ .tag none :: ·) := by
  rw [h.scanMarkup_closing, shown?_even hn, h.readTag_closing]
  rfl

theorem StyleName.spelled?_closing (h : StyleName name known) (t : List Char) :
    spelled? (known :: opened) (markupPieces ('[' :: '/' :: (name ++ ']' :: t))) =
      spelled? opened (markupPieces t) := by
  unfold spelled?
  rw [markupPieces, h.shown?_closing rfl, Option.map_map]
  rfl

theorem StyleName.shown?_closing_odd (h : StyleName name known) (hn : n % 2 = 1) (t : List Char) :
    shown? opened (scanMarkup 0 n ('[' :: '/' :: (name ++ ']' :: t))) =
      (shown? opened (markupPieces t)).map (plainTag (n / 2) ('/' :: name) ++ ·) := by
  rw [h.scanMarkup_closing, shown?_odd hn]

end Preflight.Report

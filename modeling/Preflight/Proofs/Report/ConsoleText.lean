import Preflight.Proofs.Report.Labels
import Preflight.Proofs.Report.ShownText

/-!
# Texts on the console

A text is printed alone, as a success, or as the cause of an error, behind a headline. It is shown with all
its tags, whatever it is (`exists_text_shownAs`, `exists_success_shownAs`, `exists_error_shownAs`), and if its
lines are legible it is printed as it is (`text_of_legible`, `success_of_legible`, `error_of_legible`).
-/

namespace Preflight.Report

open Text

variable {screen : Screen} {s : List Char} {markup headline : String} {signs : List Sign}

/-! ### Lines -/

theorem printed_eq (screen : Screen) (h : shown? [] (markupPieces markup.toList) = some signs) :
    printed screen markup = .ok (laidOut (withEmoji screen 0 signs)) := by
  unfold printed
  rw [showMarkup_of_shown? h]
  rfl

/-- Text whose lines are legible and hold no emoji code that the screen knows. -/
structure LegibleLines (screen : Screen) (s : List Char) : Prop where
  chars : ∀ c ∈ s, c ≠ '\\' ∧ c ≠ '\t' ∧ isDropped c = false
  codeless : Codeless screen s

theorem Legible.lines (h : Legible s) (hc : Codeless screen s) : LegibleLines screen s :=
  ⟨fun c hm => ⟨(h c hm).1, (h c hm).2.2⟩, hc⟩

theorem LegibleLines.noBackslash (h : LegibleLines screen s) : '\\' ∉ s := fun hm => (h.chars _ hm).1 rfl

theorem dropControls_eq (h : ∀ c ∈ s, isDropped c = false) : dropControls s = s := by
  refine List.filter_eq_self.mpr fun c hc => ?_
  rw [h c hc]
  rfl

theorem LegibleLines.dropControls_eq (h : LegibleLines screen s) : dropControls s = s :=
  Report.dropControls_eq fun c hc => (h.chars c hc).2.2

theorem LegibleLines.noTab (h : LegibleLines screen s) : ∀ line ∈ split '\n' s, '\t' ∉ line :=
  fun _ hl hm => (h.chars _ (mem_of_mem_split hl hm)).2.1 rfl

theorem map_expandTabs {lines : List (List Char)} (h : ∀ line ∈ lines, '\t' ∉ line) :
    lines.map (expandTabs 0) = lines :=
  (List.map_congr_left fun line hl => expandTabs_of_notMem (h line hl) 0).trans (List.map_id' lines)

theorem laidOut_legible {s : String} (h : LegibleLines screen s.toList) : laidOut s.toList = s ++ "\n" := by
  rw [laidOut, shownLines, h.dropControls_eq, map_expandTabs h.noTab, joinWith_split,
    String.ofList_append, String.ofList_toList]

/-! ### A headline with text behind it -/

/-- A headline is quiet, and its colons have blanks behind them or stand at its end. -/
structure Headline (s : List Char) : Prop where
  quiet : Quiet s
  uncoded : codeNames (s.map .char) = []

instance (s : List Char) : Decidable (Headline s) :=
  decidable_of_iff (Quiet s ∧ codeNames (s.map .char) = []) ⟨fun h => ⟨h.1, h.2⟩, fun h => ⟨h.1, h.2⟩⟩

/-- The blanks that a tab behind a headline is filled up with. -/
def gap (headline : List Char) : List Char := List.replicate (tabSize - cells headline % tabSize) ' '

theorem expandTabs_behind {headline line : List Char} (hh : '\t' ∉ headline) (hl : '\t' ∉ line) :
    expandTabs 0 (headline ++ '\t' :: line) = headline ++ gap headline ++ line := by
  rw [expandTabs_append hh, expandTabs, if_pos rfl, Nat.zero_add, List.append_assoc]
  dsimp only
  rw [expandTabs_of_notMem hl]
  rfl

/-- Legible lines behind a headline and a tab are laid out as they are, but for the tab. -/
theorem laidOut_behind {headline : List Char} (hh : Legible headline) (h : LegibleLines screen s) :
    laidOut (headline ++ '\t' :: s) = String.ofList (headline ++ gap headline ++ s ++ ['\n']) := by
  have hdrop : dropControls (headline ++ '\t' :: s) = headline ++ '\t' :: s := by
    refine dropControls_eq (List.forall_mem_append.mpr ⟨fun c hc => (hh c hc).2.2.2, ?_⟩)
    exact List.forall_mem_cons.mpr ⟨by decide, fun c hc => (h.chars c hc).2.2⟩
  obtain ⟨line, lines, hs⟩ := List.exists_cons_of_ne_nil (split_ne_nil '\n' s)
  have htab := h.noTab
  rw [hs] at htab
  obtain ⟨hline, hlines⟩ := List.forall_mem_cons.mp htab
  have hfirst : split '\n' ('\t' :: s) = ('\t' :: line) :: lines :=
    split_append (p := ['\t']) (by decide) hs
  have hnewline : '\n' ∉ headline := fun hm => (hh _ hm).2.1 rfl
  rw [laidOut, shownLines, hdrop, split_append hnewline hfirst, List.map_cons, map_expandTabs hlines,
    expandTabs_behind (fun hm => (hh _ hm).2.2.1 rfl) hline, joinWith_append, ← hs, joinWith_split]

/-! ### What is printed -/

theorem exists_text_shownAs (screen : Screen) (s : String) : ∃ shown, ShownAs (markupPieces s.toList) shown ∧
    text screen s = .ok (laidOut (withEmoji screen 0 shown)) := by
  have hend (n : Nat) : ∃ m ≤ n, shown? [] (scanMarkup 0 n []) = some (backslashes m ++ []) :=
    ⟨n, Nat.le_refl n, by rw [scanMarkup, shown?_backslashes, List.append_nil]⟩
  obtain ⟨shown, hshown, h⟩ := exists_shownAs_escapeChars (s := s.toList) ⟨rfl, .inl rfl⟩ hend
  refine ⟨shown, hshown, printed_eq screen ?_⟩
  rw [List.append_nil, List.append_nil] at h
  rwa [toList_escape]

def green : List Char := "green".toList

def red : List Char := "red".toList

theorem styleName_green : StyleName "green".toList green := by constructor <;> decide +kernel

theorem styleName_red : StyleName "red".toList red := by constructor <;> decide +kernel

/-- What is shown at the end of a success: some of the last backslashes, and the end tag too behind an odd
number of them but for a single one, which escaping doubles. -/
def endMark (s : List Char) : List Sign :=
  let n := endBackslashes s + addedBackslashes s
  if n % 2 = 1 then plainTag (n / 2) "/green".toList else backslashes (n / 2) ++ [.tag none]

theorem letters_endMark (h : '\\' ∉ s) : letters (endMark s) = [] := by
  have hn := endBackslashes_eq_zero h
  rw [endMark, hn, addedBackslashes_eq_zero hn]
  rfl

theorem exists_success_shownAs (screen : Screen) (s : String) :
    ∃ shown, ShownAs (markupPieces s.toList) shown ∧
      success screen s = .ok (laidOut (withEmoji screen 0 (shown ++ endMark s.toList))) := by
  have hend (n : Nat) : ∃ m ≤ n, shown? [green] (scanMarkup 0 n "[/green]".toList) =
      some (backslashes m ++ if n % 2 = 1 then plainTag (n / 2) "/green".toList
        else backslashes (n / 2) ++ [.tag none]) := by
    refine ⟨0, Nat.zero_le n, ?_⟩
    rcases Nat.mod_two_eq_zero_or_one n with hn | hn
    · rw [if_neg (by omega)]
      exact styleName_green.shown?_closing hn []
    · rw [if_pos hn]
      exact (styleName_green.shown?_closing_odd hn []).trans (congrArg some (List.append_nil _))
  obtain ⟨shown, hshown, h⟩ := exists_shownAs_escapeChars (s := s.toList) ⟨rfl, .inl rfl⟩ hend
  refine ⟨shown, hshown, ?_⟩
  have hopening (t : List Char) : shown? [] (markupPieces ("[green]".toList ++ t)) =
      (shown? [green] (markupPieces t)).map (.tag (some green) :: ·) := styleName_green.shown?_opening t
  have hsigns : shown? [] (markupPieces ("[green]" ++ escape s ++ "[/green]").toList) =
      some (.tag (some green) :: (shown ++ endMark s.toList)) := by
    rw [String.toList_append, String.toList_append, toList_escape, List.append_assoc, hopening, h]
    rfl
  have hline := printed_eq screen hsigns
  rwa [withEmoji] at hline

theorem shown?_headline (hl : Tagless s) (t : List Char) :
    shown? [] (markupPieces ("[red]".toList ++ (s ++ ("[/red]".toList ++ t)))) =
      (shown? [] (markupPieces t)).map fun signs => .tag (some red) :: (s.map Sign.char ++ .tag none :: signs) := by
  have hopening (t : List Char) : shown? [] (markupPieces ("[red]".toList ++ t)) =
      (shown? [red] (markupPieces t)).map (.tag (some red) :: ·) := styleName_red.shown?_opening t
  have hclosing : shown? [red] (markupPieces ("[/red]".toList ++ t)) =
      (shown? [] (markupPieces t)).map (.tag none :: ·) := styleName_red.shown?_closing rfl t
  rw [hopening, shown?_fixed hl, hclosing, Option.map_map, Option.map_map]
  rfl

theorem Headline.codeless (h : Headline s) : Codeless screen s := codeless_of_eq_nil h.uncoded

theorem withEmoji_headline (h : Headline s) (signs : List Sign) :
    withEmoji screen 0 (.tag (some red) :: (s.map Sign.char ++ .tag none :: signs)) =
      s ++ withEmoji screen 0 signs := by
  have hparts : (Sign.tag none).Parts := trivial
  have hown : withEmoji screen 0 (s.map Sign.char) = s := by
    rw [withEmoji_eq_letters h.codeless, List.drop_zero, letters_map_char]
  rw [withEmoji, withEmoji_append hparts _ _ (Nat.zero_le _), hown, withEmoji]

theorem error_nil (hl : Headline headline.toList) : error screen headline "" = .ok (headline ++ "\n") := by
  have hshown : shown? [] (markupPieces ("[red]" ++ escape headline ++ "[/red]").toList) =
      some (.tag (some red) :: (headline.toList.map Sign.char ++ [.tag none])) := by
    have h := shown?_headline hl.quiet.1 []
    rw [List.append_nil] at h
    rw [String.toList_append, String.toList_append, toList_escape, escapeChars_tagless hl.quiet.1,
      List.append_assoc, h]
    rfl
  have hlines : LegibleLines screen headline.toList := hl.quiet.2.lines hl.codeless
  have hline := printed_eq screen hshown
  rwa [withEmoji_headline hl, withEmoji, List.append_nil, laidOut_legible hlines] at hline

theorem exists_error_shownAs (screen : Screen) (hl : Headline headline.toList) {s : String} (hs : s ≠ "") :
    ∃ shown, ShownAs (markupPieces s.toList) shown ∧
      error screen headline s = .ok (laidOut
        (headline.toList ++ '\t' :: withEmoji screen 0 (shown ++ [.char '\n']))) := by
  have hend (n : Nat) : ∃ m ≤ n, shown? [] (scanMarkup 0 n ['\n']) =
      some (backslashes m ++ [.char '\n']) := by
    refine ⟨n, Nat.le_refl n, ?_⟩
    rw [scanMarkup_plain (by decide) (by decide), scanMarkup, shown?_backslashes_char n (by decide)]
    rfl
  obtain ⟨shown, hshown, h⟩ := exists_shownAs_escapeChars (s := s.toList) ⟨rfl, .inl rfl⟩ hend
  refine ⟨shown, hshown, ?_⟩
  have htab (t : List Char) : shown? [] (markupPieces ("\t".toList ++ t)) =
      (shown? [] (markupPieces t)).map ("\t".toList.map Sign.char ++ ·) := shown?_fixed (by decide) t
  have hmarkup : shown? [] (markupPieces
      ("[red]" ++ escape headline ++ "[/red]" ++ "\t" ++ escape s ++ "\n").toList) =
        some (.tag (some red) :: (headline.toList.map Sign.char ++
          .tag none :: .char '\t' :: (shown ++ [.char '\n']))) := by
    simp only [String.toList_append, toList_escape, escapeChars_tagless hl.quiet.1, List.append_assoc]
    rw [shown?_headline hl.quiet.1, htab]
    show ((shown? [] (markupPieces (escapeChars s.toList ++ ['\n']))).map _).map _ = _
    rw [h]
    rfl
  unfold error
  dsimp only
  rw [if_neg (by simpa using hs), printed_eq screen hmarkup, withEmoji_headline hl, withEmoji_char (by decide)]

/-- Every error with a headline is printed, whatever its cause. -/
theorem exists_error (screen : Screen) (hl : Headline headline.toList) (cause : String) :
    ∃ line, error screen headline cause = .ok line := by
  by_cases hc : cause = ""
  · subst hc
    exact ⟨_, error_nil hl⟩
  · obtain ⟨shown, -, h⟩ := exists_error_shownAs screen hl hc
    exact ⟨_, h⟩

/-! ### Legible lines -/

/-- All of legible lines is left, and what stands behind them if there is no colon in it. -/
theorem withEmoji_of_legible {shown behind : List Sign} {more : List Char} (h : LegibleLines screen s)
    (hshown : ShownAs (markupPieces s) shown) (hb : letters behind = more) (hm : ':' ∉ more) :
    withEmoji screen 0 (shown ++ behind) = s ++ more := by
  have hletters : letters (shown ++ behind) = s ++ more := by
    rw [letters_append, hshown.letters_eq h.noBackslash, hb]
  have hcodeless : CodelessSigns screen (shown ++ behind) := codelessSigns_of_letters (by
    rw [hletters]
    exact h.codeless.append_of_notMem hm)
  rw [withEmoji_eq_letters hcodeless, List.drop_zero, hletters]

theorem text_of_legible {s : String} (h : LegibleLines screen s.toList) :
    text screen s = .ok (s ++ "\n") := by
  obtain ⟨shown, hshown, ht⟩ := exists_text_shownAs screen s
  have hsigns := withEmoji_of_legible h hshown letters_nil List.not_mem_nil
  rw [List.append_nil, List.append_nil] at hsigns
  rw [ht, hsigns, laidOut_legible h]

theorem success_of_legible {s : String} (h : LegibleLines screen s.toList) :
    success screen s = .ok (s ++ "\n") := by
  obtain ⟨shown, hshown, ht⟩ := exists_success_shownAs screen s
  rw [ht, withEmoji_of_legible h hshown (letters_endMark h.noBackslash) List.not_mem_nil, List.append_nil,
    laidOut_legible h]

theorem LegibleLines.append_newline (h : LegibleLines screen s) : LegibleLines screen (s ++ ['\n']) :=
  ⟨List.forall_mem_append.mpr ⟨h.chars, List.forall_mem_singleton.mpr (by decide)⟩,
    h.codeless.append_of_notMem (by decide)⟩

theorem error_of_legible (hl : Headline headline.toList) {s : String} (h : LegibleLines screen s.toList)
    (hs : s ≠ "") :
    error screen headline s = .ok (headline ++ String.ofList (gap headline.toList) ++ s ++ "\n\n") := by
  obtain ⟨shown, hshown, ht⟩ := exists_error_shownAs screen hl hs
  have hline : letters [.char '\n'] = ['\n'] := rfl
  rw [ht, withEmoji_of_legible h hshown hline (by decide), laidOut_behind hl.quiet.2 h.append_newline]
  simp only [String.ofList_append, String.ofList_toList, String.append_assoc]
  rfl

end Preflight.Report

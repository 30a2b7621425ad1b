import Preflight.Proofs.Report.Verbatim

/-!
# Tags across two escaped texts

Texts that are escaped one by one hold no tag, but behind each other they may: a bracket that the first one
leaves open is closed by the second one. What is read of a method and a pattern with a blank between them
is all of both, but for such a tag (`exists_shown?_pair`); they cannot be shown exactly if that tag cannot
be read (`isSome_pair_iff`).
-/

namespace Preflight.Report

open Text

variable {opened : List (List Char)} {s t before inside closed after method pattern : List Char}

/-! ### Backslashes at the end -/

def endBackslashes (s : List Char) : Nat := (s.reverse.takeWhile (· = '\\')).length

theorem endBackslashes_append {c : Char} (hc : c ≠ '\\') (a s : List Char) :
    endBackslashes (a ++ c :: s) = endBackslashes s := by
  unfold endBackslashes
  rw [List.reverse_append, List.reverse_cons, List.append_assoc, List.takeWhile_append]
  split
  · next hl =>
    rw [List.length_append, hl, List.singleton_append, List.takeWhile_cons_of_neg (by simpa using hc)]
    rfl
  · rfl

theorem endBackslashes_replicate (k : Nat) : endBackslashes (List.replicate k '\\') = k := by
  simp [endBackslashes]

theorem endBackslashes_eq_zero (h : '\\' ∉ s) : endBackslashes s = 0 := by
  unfold endBackslashes
  cases hs : s.reverse with
  | nil => rfl
  | cons c r =>
    have hc : c ≠ '\\' := by
      rintro rfl
      exact h (List.mem_reverse.mp (by rw [hs]; exact List.mem_cons_self))
    rw [List.takeWhile_cons_of_neg (by simpa using hc)]
    rfl

theorem Scanned.end_eq {k n : Nat} {pieces : List MarkupPiece} (h : Scanned k s pieces n) :
    n = endBackslashes (List.replicate k '\\' ++ s) := by
  induction h with
  | @done k => rw [List.append_nil, endBackslashes_replicate]
  | @backslash k n s pieces _ ih =>
    rw [ih, List.replicate_succ', List.append_assoc]
    rfl
  | @plain k n c s pieces hb _ _ ih => rw [ih, endBackslashes_append hb]; rfl
  | @tag k n s inner pieces ht _ ih =>
    have hs : List.replicate k '\\' ++ '[' :: s =
        (List.replicate k '\\' ++ '[' :: inner) ++ ']' :: s.drop (inner.length + 1) := by
      conv => lhs; rw [← eq_of_tagInner? ht]
      rw [List.append_assoc]
      rfl
    rw [ih, hs, endBackslashes_append (by decide)]
    rfl

/-! ### Escaped text behind which more follows -/

theorem escapedFrom_append_backslashes (s : List Char) (j : Nat) :
    escapedFrom 0 (s ++ List.replicate j '\\') = escapedFrom 0 s ++ List.replicate j '\\' := by
  obtain ⟨pieces, n, h⟩ := exists_scanned 0 s
  have hb := bracketless_replicate j
  rw [escapedFrom, h.append (apart_of_bracketless s hb), scanMarkup_bracketless hb, List.map_replicate,
    escapedFrom, h.scan_eq, ← List.append_assoc, List.flatMap_append, flatMap_escaped_replicate]

theorem endsInLoneBackslash_iff : endsInLoneBackslash s = true ↔ endBackslashes s = 1 := by
  unfold endsInLoneBackslash endBackslashes
  cases s.reverse with
  | nil => simp
  | cons c r =>
    by_cases hc : c = '\\'
    · cases r with
      | nil => simp [hc]
      | cons d r => by_cases hd : d = '\\' <;> simp [hc, hd]
    · simp [hc]

theorem Scanned.endBackslashes_escaped {k n : Nat} {pieces : List MarkupPiece} (h : Scanned k s pieces n) :
    endBackslashes (pieces.flatMap MarkupPiece.escaped ++ List.replicate n '\\') = n := by
  induction h with
  | done => exact endBackslashes_replicate _
  | backslash _ ih => exact ih
  | @plain k n c s pieces hb _ _ ih =>
    rw [List.flatMap_append, List.flatMap_cons, List.append_assoc]
    exact (endBackslashes_append hb _ _).trans ih
  | @tag k n s inner pieces _ _ ih =>
    have he : (MarkupPiece.tag k inner).escaped =
        (List.replicate (2 * k + 1) '\\' ++ '[' :: inner) ++ [']'] := by
      simp [MarkupPiece.escaped, MarkupPiece.text]
    rw [List.flatMap_cons, he, List.append_assoc, List.append_assoc]
    exact (endBackslashes_append (by decide) _ _).trans ih

/-- How many backslashes escaping puts behind a text. -/
def addedBackslashes (s : List Char) : Nat := if endBackslashes s = 1 then 1 else 0

theorem addedBackslashes_eq_zero (h : endBackslashes s = 0) : addedBackslashes s = 0 := by
  rw [addedBackslashes, h]
  rfl

/-- Escaping a text comes to scanning it with another backslash behind it if it ends in a single one. -/
theorem escapeChars_eq (s : List Char) :
    escapeChars s = escapedFrom 0 (s ++ List.replicate (addedBackslashes s) '\\') := by
  obtain ⟨pieces, n, h⟩ := exists_scanned 0 s
  have hend : endBackslashes (escapedFrom 0 s) = endBackslashes s := by
    obtain rfl : n = endBackslashes s := h.end_eq
    rw [escapedFrom, h.scan_eq, List.flatMap_append, flatMap_escaped_replicate, h.endBackslashes_escaped]
  have hlone := endsInLoneBackslash_iff (s := escapedFrom 0 s)
  rw [hend] at hlone
  rw [escapedFrom_append_backslashes, addedBackslashes]
  show (if endsInLoneBackslash (escapedFrom 0 s) = true then escapedFrom 0 s ++ ['\\']
    else escapedFrom 0 s) = _
  by_cases hs : endBackslashes s = 1
  · rw [if_pos (hlone.mpr hs), if_pos hs]
    rfl
  · rw [if_neg (mt hlone.mp hs), if_neg hs]
    exact (List.append_nil _).symm

/-- Escaped text behind which no tag goes on, as it is scanned before more text. -/
theorem exists_scan_escapeChars (ha : Apart s t) :
    ∃ pieces, Scanned 0 s pieces (endBackslashes s) ∧ markupPieces (escapeChars s ++ t) =
      pieces.map MarkupPiece.guarded ++ scanMarkup 0 (endBackslashes s + addedBackslashes s) t := by
  obtain ⟨pieces, n, h⟩ := exists_scanned 0 s
  obtain rfl : n = endBackslashes s := h.end_eq
  have hapart : Apart s (List.replicate (addedBackslashes s) '\\' ++ t) := by
    refine ⟨?_, ha.across.imp_left (upToBracket?_backslashes _)⟩
    cases addedBackslashes s with
    | zero => exact ha.next
    | succ j => exact tagInner?_backslashes (Nat.succ_pos j) t
  refine ⟨pieces, h, ?_⟩
  rw [escapeChars_eq, escapedFrom_append_backslashes, List.append_assoc, markupPieces,
    h.escaped_append hapart, scanMarkup_replicate]

theorem exists_isSome_escapeChars (ha : Apart s t) :
    ∃ n, ∀ opened, (shown? opened (markupPieces (escapeChars s ++ t))).isSome =
      (shown? opened (scanMarkup 0 n t)).isSome := by
  obtain ⟨pieces, -, h⟩ := exists_scan_escapeChars ha
  exact ⟨_, fun opened => by rw [h, isSome_shown?_append (inert_map_guarded _)]⟩

/-- A text without backslashes is left with all its characters if it was escaped. -/
theorem spelled?_escapeChars (hs : '\\' ∉ s) (ha : Apart s t) :
    spelled? opened (markupPieces (escapeChars s ++ t)) =
      (spelled? opened (markupPieces t)).map (s ++ ·) := by
  obtain ⟨pieces, hscan, h⟩ := exists_scan_escapeChars ha
  have hend := endBackslashes_eq_zero hs
  rw [h, (hscan.spells hs).2.spelled?_guarded, hend, addedBackslashes_eq_zero hend]
  rfl

theorem spelled?_escaped (hs : '\\' ∉ s) : spelled? opened (markupPieces (escapeChars s)) = some s := by
  have h : spelled? opened (markupPieces (escapeChars s ++ [])) =
      (spelled? opened (markupPieces [])).map (s ++ ·) := spelled?_escapeChars hs ⟨rfl, .inl rfl⟩
  rw [List.append_nil] at h
  rw [h]
  exact congrArg some (List.append_nil s)

/-! ### A method and a pattern -/

/-- What is read of a method and a pattern: both, without a tag that begins in the one and ends in the
other. -/
def readPair (method pattern : List Char) : List Char :=
  match openTag? method, upToBracket? pattern with
  | some (before, _), some closed => before ++ pattern.drop (closed.length + 1)
  | _, _ => method ++ ' ' :: pattern

/-- Both are read as they are exactly if no tag is across them. -/
theorem readPair_eq_iff (method pattern : List Char) : readPair method pattern = method ++ ' ' :: pattern ↔
    openTag? method = none ∨ upToBracket? pattern = none := by
  unfold readPair
  cases hm : openTag? method with
  | none => simp
  | some o =>
    cases hp : upToBracket? pattern with
    | none => simp
    | some closed =>
      obtain ⟨rfl, -⟩ := openTag?_eq_some_iff.mp hm
      simp only [reduceCtorEq, or_self, iff_false]
      intro he
      have hl := congrArg List.length he
      simp only [List.length_append, List.length_drop, List.length_cons] at hl
      omega

/-- The tag that begins in a method and ends in a pattern, both escaped, if there is one that counts. -/
def crossing? (method pattern : List Char) : Option (List Char) :=
  match openTag? method, upToBracket? pattern with
  | some (before, inside), some closed =>
    if endBackslashes before % 2 = 0 then
      some (inside ++ (List.replicate (addedBackslashes method) '\\' ++ ' ' :: closed))
    else none
  | _, _ => none

theorem escapedFrom_open (before : List Char) (hi : Bracketless inside) :
    escapedFrom 0 (before ++ '[' :: inside) = escapedFrom 0 before ++ '[' :: inside := by
  obtain ⟨pieces, n, h⟩ := exists_scanned 0 before
  have hnone : tagInner? inside = none := (apart_of_bracketless [] hi).next
  have hscan : scanMarkup 0 n ('[' :: inside) =
      List.replicate n (.char '\\') ++ .char '[' :: inside.map .char := by
    rw [scanMarkup_plain (by decide) fun _ => hnone, scanMarkup_bracketless hi]
    rfl
  have hchars (l : List Char) : (l.map MarkupPiece.char).flatMap MarkupPiece.escaped = l := by
    rw [List.flatMap_map]
    exact List.flatMap_singleton' l
  rw [escapedFrom, h.append ⟨rfl, .inl rfl⟩, hscan, escapedFrom, h.scan_eq, List.flatMap_append,
    List.flatMap_append, List.flatMap_append, List.flatMap_cons, hchars, List.append_assoc]
  rfl

theorem escapedFrom_closed (hc : Bracketless closed) (k : Nat) (after : List Char) :
    escapedFrom k (closed ++ ']' :: after) =
      List.replicate k '\\' ++ closed ++ ']' :: escapedFrom 0 after := by
  induction closed generalizing k with
  | nil =>
    rw [List.nil_append, escapedFrom_plain (by decide) fun he => absurd he (by decide), List.append_nil]
  | cons c closed ih =>
    obtain ⟨hb, hs⟩ := List.forall_mem_cons.mp hc
    by_cases hbackslash : c = '\\'
    · subst hbackslash
      rw [List.cons_append, escapedFrom_backslash, ih hs, List.replicate_succ', List.append_assoc,
        List.append_assoc, List.append_assoc]
      rfl
    · rw [List.cons_append, escapedFrom_plain hbackslash fun he => absurd he hb.1, ih hs]
      simp

theorem exists_escapeChars_across (hm : openTag? method = some (before, inside))
    (hp : upToBracket? pattern = some closed) :
    Bracketless (List.replicate (addedBackslashes method) '\\' ++ ' ' :: closed) ∧
    ∃ after : List Char, escapeChars method ++ ' ' :: escapeChars pattern =
        escapedFrom 0 before ++ '[' :: (inside ++
          (List.replicate (addedBackslashes method) '\\' ++ ' ' :: closed) ++ ']' :: escapedFrom 0 after) ∧
      ('\\' ∉ pattern → after = pattern.drop (closed.length + 1)) := by
  obtain ⟨hmethod, -, hinside⟩ := openTag?_eq_some_iff.mp hm
  have hclosed := bracketless_of_upToBracket? hp
  have hfirst : escapeChars method =
      escapedFrom 0 before ++ '[' :: (inside ++ List.replicate (addedBackslashes method) '\\') := by
    have hopen : Bracketless (inside ++ List.replicate (addedBackslashes method) '\\') :=
      List.forall_mem_append.mpr ⟨hinside, bracketless_replicate _⟩
    rw [escapeChars_eq, ← escapedFrom_open before hopen, hmethod, List.append_assoc]
    rfl
  have hsecond : escapeChars pattern =
      closed ++ ']' :: escapedFrom 0
        (pattern.drop (closed.length + 1) ++ List.replicate (addedBackslashes pattern) '\\') := by
    have htext := eq_of_upToBracket? hp
    rw [escapeChars_eq]
    conv => lhs; arg 2; arg 1; rw [← htext]
    rw [List.append_assoc, List.cons_append]
    rw [escapedFrom_closed hclosed]
    rfl
  refine ⟨?_, pattern.drop (closed.length + 1) ++ List.replicate (addedBackslashes pattern) '\\', ?_,
    fun hs => ?_⟩
  · exact List.forall_mem_append.mpr
      ⟨bracketless_replicate _, List.forall_mem_cons.mpr ⟨by decide, hclosed⟩⟩
  · simp [hfirst, hsecond]
  · rw [addedBackslashes_eq_zero (endBackslashes_eq_zero hs), List.replicate_zero, List.append_nil]

theorem exists_scan_across (hm : openTag? method = some (before, inside))
    (hp : upToBracket? pattern = some closed) : ∃ pieces rest : List MarkupPiece,
    markupPieces (escapeChars method ++ ' ' :: escapeChars pattern) = pieces.map MarkupPiece.guarded ++
        .tag (endBackslashes before) (inside ++ (List.replicate (addedBackslashes method) '\\' ++
          ' ' :: closed)) :: rest.map MarkupPiece.guarded ∧
      ('\\' ∉ method → Spells pieces before) ∧
      ('\\' ∉ pattern → Spells rest (pattern.drop (closed.length + 1))) := by
  obtain ⟨hmethod, hstarts, hinside⟩ := openTag?_eq_some_iff.mp hm
  obtain ⟨hmore, after, htext, hafter⟩ := exists_escapeChars_across hm hp
  obtain ⟨pieces, n, h⟩ := exists_scanned 0 before
  refine ⟨pieces, scanMarkup 0 0 after, ?_, fun hs => ?_, fun hs => ?_⟩
  all_goals
    generalize List.replicate (addedBackslashes method) '\\' ++ ' ' :: closed = more at hmore htext ⊢
  · have htag : tagInner? (inside ++ more ++ ']' :: escapedFrom 0 after) = some (inside ++ more) := by
      refine tagInner?_of_bracketless ?_ (List.forall_mem_append.mpr ⟨hinside, hmore⟩) _
      cases inside with
      | nil => cases hstarts
      | cons c inside => exact hstarts
    have hrest : (inside ++ more ++ ']' :: escapedFrom 0 after).drop ((inside ++ more).length + 1) =
        escapedFrom 0 after ++ [] := by
      rw [List.drop_append, List.drop_eq_nil_of_le (Nat.le_succ _), Nat.add_sub_cancel_left,
        List.append_nil]
      rfl
    rw [htext, markupPieces, h.escaped_append ⟨rfl, .inl rfl⟩, scanMarkup_tag htag, hrest,
      scanMarkup_escapedFrom (List.forall_mem_nil _), h.end_eq, List.map_nil, List.append_nil]
    rfl
  · exact (h.spells fun hc => hs (by rw [hmethod]; exact List.mem_append_left _ hc)).2
  · obtain ⟨found, n, hf⟩ := exists_scanned 0 after
    rw [hafter hs] at hf ⊢
    obtain ⟨rfl, hspells⟩ := hf.spells fun hc => hs (List.mem_of_mem_drop hc)
    rw [hf.scan_eq, List.replicate_zero, List.append_nil]
    exact hspells

/-! ### Whether and how they are read -/

theorem tagInner?_blank (s : List Char) : tagInner? (' ' :: s) = none := tagInner?_eq_none (by decide) s

theorem upToBracket?_escapeChars (h : upToBracket? s = none) : upToBracket? (escapeChars s) = none := by
  have hs := upToBracket?_append_of_none h fun _ =>
    upToBracket?_bracketless (bracketless_replicate (addedBackslashes s))
  have he := upToBracket?_escapedFrom (t := []) hs (fun _ => rfl) 0
  rwa [List.append_nil, ← escapeChars_eq] at he

theorem across_or (method pattern : List Char) :
    Apart method (' ' :: escapeChars pattern) ∧ readPair method pattern = method ++ ' ' :: pattern ∧
        crossing? method pattern = none ∨
      ∃ before inside closed, openTag? method = some (before, inside) ∧
        upToBracket? pattern = some closed := by
  unfold readPair crossing?
  cases hm : openTag? method with
  | none => exact .inl ⟨⟨tagInner?_blank _, .inr hm⟩, rfl, rfl⟩
  | some o =>
    cases hp : upToBracket? pattern with
    | none =>
      refine .inl ⟨⟨tagInner?_blank _, .inl ?_⟩, rfl, rfl⟩
      rw [upToBracket?, if_neg (by decide), if_neg (by decide), upToBracket?_escapeChars hp]
      rfl
    | some closed => exact .inr ⟨o.1, o.2, closed, rfl, rfl⟩

theorem crossing?_eq (hm : openTag? method = some (before, inside)) (hp : upToBracket? pattern = some closed) :
    crossing? method pattern =
      if endBackslashes before % 2 = 0 then
        some (inside ++ (List.replicate (addedBackslashes method) '\\' ++ ' ' :: closed))
      else none := by
  unfold crossing?
  rw [hm, hp]

theorem scanMarkup_blank (k : Nat) (s : List Char) :
    scanMarkup 0 k (' ' :: s) = List.replicate k (.char '\\') ++ .char ' ' :: markupPieces s :=
  scanMarkup_plain (by decide) (fun he => absurd he (by decide)) k

theorem inert_replicate (k : Nat) : Inert (List.replicate k (.char '\\')) := by
  intro piece hm n inner he
  rw [List.eq_of_mem_replicate hm] at he
  cases he

/-- The parts of a method and a pattern hold no tag that counts but the one across them. -/
theorem pair_inert_or (method pattern : List Char) :
    crossing? method pattern = none ∧
        Inert (markupPieces (escapeChars method ++ ' ' :: escapeChars pattern)) ∨
      ∃ inner p q n, crossing? method pattern = some inner ∧ Inert p ∧ Inert q ∧ n % 2 = 0 ∧
        markupPieces (escapeChars method ++ ' ' :: escapeChars pattern) = p ++ .tag n inner :: q := by
  rcases across_or method pattern with ⟨hapart, -, hn⟩ | ⟨before, inside, closed, hm, hp⟩
  · obtain ⟨pieces, -, hscan⟩ := exists_scan_escapeChars hapart
    refine .inl ⟨hn, ?_⟩
    have hblank : Inert [MarkupPiece.char ' '] := inert_map_char [' ']
    rw [hscan, scanMarkup_blank]
    exact inert_append (inert_map_guarded _)
      (inert_append (inert_replicate _) (inert_append hblank (inert_escapeChars pattern)))
  · obtain ⟨pieces, rest, hscan, -⟩ := exists_scan_across hm hp
    by_cases heven : endBackslashes before % 2 = 0
    · have hc := (crossing?_eq hm hp).trans (if_pos heven)
      exact .inr ⟨_, _, _, _, hc, inert_map_guarded _, inert_map_guarded _, heven, hscan⟩
    · refine .inl ⟨(crossing?_eq hm hp).trans (if_neg heven), ?_⟩
      rw [hscan]
      refine inert_append (inert_map_guarded _) fun piece hmem n inner he => ?_
      rcases List.mem_cons.mp hmem with rfl | hmem
      · cases he
        omega
      · exact inert_map_guarded rest piece hmem n inner he

/-- A method and a pattern can be shown unless the tag across them cannot be read. -/
theorem isSome_pair_iff (method pattern : List Char) :
    (shown? [] (markupPieces (escapeChars method ++ ' ' :: escapeChars pattern))).isSome = true ↔
      ∀ inner, crossing? method pattern = some inner → (readTag? inner []).isSome = true := by
  rcases pair_inert_or method pattern with ⟨hn, hi⟩ | ⟨inner, p, q, n, hc, hp, hq, hn, hscan⟩
  · rw [hn, isSome_shown?_inert hi]
    simp
  · rw [hscan, isSome_shown?_append hp, shown?_even hn, hc]
    simp only [Option.some.injEq, forall_eq']
    cases readTag? inner [] with
    | none => rfl
    | some read => rw [Option.bind_some, Option.isSome_map, isSome_shown?_inert hq]; rfl

theorem exists_shown?_apart (hm : '\\' ∉ method) (hp : '\\' ∉ pattern)
    (h : Apart method (' ' :: escapeChars pattern)) :
    ∃ signs, shown? [] (markupPieces (escapeChars method ++ ' ' :: escapeChars pattern)) = some signs ∧
      letters signs = method ++ ' ' :: pattern := by
  have hblank : markupPieces (' ' :: escapeChars pattern) =
      [' '].map .char ++ markupPieces (escapeChars pattern) := scanMarkup_blank 0 _
  have hspelled : spelled? [] (markupPieces (escapeChars method ++ ' ' :: escapeChars pattern)) =
      some (method ++ ' ' :: pattern) := by
    rw [spelled?_escapeChars hm h, hblank, spelled?_tagless (by decide), spelled?_escaped hp]
    rfl
  exact Option.map_eq_some_iff.mp hspelled

/-- With a tag across them that can be read, what stands before the tag and behind it is left. -/
theorem exists_shown?_across (hm : '\\' ∉ method) (hp : '\\' ∉ pattern)
    (hopen : openTag? method = some (before, inside)) (hclosed : upToBracket? pattern = some closed)
    (h : ∀ inner, crossing? method pattern = some inner → (readTag? inner []).isSome = true) :
    ∃ first style second,
      shown? [] (markupPieces (escapeChars method ++ ' ' :: escapeChars pattern)) =
        some (first ++ .tag style :: second) ∧
      letters first = before ∧ letters second = pattern.drop (closed.length + 1) := by
  obtain ⟨pieces, rest, hscan, hspells, hrest⟩ := exists_scan_across hopen hclosed
  have hend : endBackslashes before = 0 := by
    obtain ⟨rfl, -, -⟩ := openTag?_eq_some_iff.mp hopen
    exact endBackslashes_eq_zero fun hc => hm (List.mem_append_left _ hc)
  have hcrossing := (crossing?_eq hopen hclosed).trans (if_pos (by rw [hend]))
  obtain ⟨⟨opened, style⟩, htag⟩ := Option.isSome_iff_exists.mp (h _ hcrossing)
  have hafter : shown? opened (rest.map MarkupPiece.guarded) =
      some (rest.flatMap MarkupPiece.plain) := by
    have hs : shown? opened (rest.map MarkupPiece.guarded ++ []) =
        (shown? opened []).map (rest.flatMap MarkupPiece.plain ++ ·) := (hrest hp).shown?_guarded
    rw [List.append_nil] at hs
    rw [hs]
    exact congrArg some (List.append_nil _)
  refine ⟨pieces.flatMap MarkupPiece.plain, style, rest.flatMap MarkupPiece.plain, ?_,
    (hspells hm).letters_plain, (hrest hp).letters_plain⟩
  rw [hscan, (hspells hm).shown?_guarded, hend, shown?_even rfl, htag, Option.bind_some, hafter]
  rfl

/-- A method and a pattern without backslashes are read as they are, but for a tag across them. -/
theorem exists_shown?_pair (hm : '\\' ∉ method) (hp : '\\' ∉ pattern)
    (h : ∀ inner, crossing? method pattern = some inner → (readTag? inner []).isSome = true) :
    ∃ signs, shown? [] (markupPieces (escapeChars method ++ ' ' :: escapeChars pattern)) = some signs ∧
      letters signs = readPair method pattern ∧
      ∀ screen, Codeless screen method → Codeless screen pattern → CodelessSigns screen signs := by
  rcases across_or method pattern with ⟨hapart, hread, -⟩ | ⟨before, inside, closed, hopen, hclosed⟩
  · obtain ⟨signs, hs, hl⟩ := exists_shown?_apart hm hp hapart
    refine ⟨signs, hs, hl.trans hread.symm, fun screen hcm hcp => codelessSigns_of_letters ?_⟩
    rw [hl]
    exact (codeless_append (by decide)).mpr ⟨hcm, hcp⟩
  · obtain ⟨first, style, second, hs, hfirst, hsecond⟩ := exists_shown?_across hm hp hopen hclosed h
    have hread : readPair method pattern = before ++ pattern.drop (closed.length + 1) := by
      unfold readPair
      rw [hopen, hclosed]
    refine ⟨_, hs, ?_, fun screen hcm hcp => ?_⟩
    · rw [letters_append, letters_tag, hfirst, hsecond, hread]
    · -- the edge of the tag parts the codes of what stands before it from those behind it
      have hparts : (Sign.tag style).Parts := trivial
      refine (codelessSigns_append hparts).mpr ⟨codelessSigns_of_letters ?_, codelessSigns_of_letters ?_⟩
      · obtain ⟨rfl, -⟩ := openTag?_eq_some_iff.mp hopen
        rw [hfirst]
        exact hcm.of_append_left
      · rw [hsecond]
        exact hcp.drop _

end Preflight.Report

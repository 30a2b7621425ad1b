import Preflight.Report.Markup

/-!
# Scans of text and of escaped text

A text is scanned part by part (`Scanned`). A scan goes on in what stands behind the text, unless a tag
begins in the one and ends in the other (`Scanned.append`). Escaped text has the same parts as the text
itself, each tag now behind an odd number of backslashes, and lets a scan go on under the same condition
(`Scanned.escaped_append`).
-/

namespace Preflight.Report

open Text

/-- A part as escaping leaves it. -/
def MarkupPiece.guarded : MarkupPiece → MarkupPiece
  | .char c => .char c
  | .tag n inner => .tag (2 * n + 1) inner

/-- Text that neither begins nor ends a tag. -/
def Bracketless (s : List Char) : Prop := ∀ c ∈ s, c ≠ '[' ∧ c ≠ ']'

instance (s : List Char) : Decidable (Bracketless s) := List.decidableBAll _ s

theorem bracketless_replicate (n : Nat) : Bracketless (List.replicate n '\\') := by
  intro c hc
  rw [List.eq_of_mem_replicate hc]
  decide

/-! ### Scanning -/

theorem scanMarkup_covered (covered backslashes : Nat) (s : List Char) :
    scanMarkup covered backslashes s = scanMarkup 0 backslashes (s.drop covered) := by
  induction covered generalizing s with
  | zero => rfl
  | succ covered ih =>
    cases s with
    | nil => simp [scanMarkup]
    | cons c s =>
      rw [scanMarkup, ih]
      rfl

theorem scanMarkup_replicate (n backslashes : Nat) (s : List Char) :
    scanMarkup 0 backslashes (List.replicate n '\\' ++ s) = scanMarkup 0 (backslashes + n) s := by
  induction n generalizing backslashes with
  | zero => rfl
  | succ n ih =>
    rw [List.replicate_succ, List.cons_append, scanMarkup, if_pos rfl, ih]
    congr 1
    omega

theorem scanMarkup_plain {c : Char} (hb : c ≠ '\\') {s : List Char}
    (ht : c = '[' → tagInner? s = none) (backslashes : Nat) :
    scanMarkup 0 backslashes (c :: s) =
      List.replicate backslashes (.char '\\') ++ .char c :: scanMarkup 0 0 s := by
  rw [scanMarkup, if_neg hb]
  by_cases hc : c = '['
  · rw [if_pos hc, ht hc]
  · rw [if_neg hc]

theorem scanMarkup_tag {s inner : List Char} (h : tagInner? s = some inner) (backslashes : Nat) :
    scanMarkup 0 backslashes ('[' :: s) =
      .tag backslashes inner :: scanMarkup 0 0 (s.drop (inner.length + 1)) := by
  rw [scanMarkup, if_neg (by decide), if_pos rfl, h]
  dsimp only
  rw [scanMarkup_covered]

theorem scanMarkup_bracketless {s : List Char} (h : Bracketless s) (backslashes : Nat) :
    scanMarkup 0 backslashes s =
      List.replicate backslashes (.char '\\') ++ s.map .char := by
  induction s generalizing backslashes with
  | nil => simp [scanMarkup]
  | cons c s ih =>
    obtain ⟨hc, hs⟩ := List.forall_mem_cons.mp h
    by_cases hb : c = '\\'
    · rw [scanMarkup, if_pos hb, ih hs, hb, List.replicate_succ', List.append_assoc]
      rfl
    · rw [scanMarkup_plain hb (fun he => absurd he hc.1), ih hs]
      rfl

theorem upToBracket?_bracketless {s : List Char} (h : Bracketless s) : upToBracket? s = none := by
  induction s with
  | nil => rfl
  | cons c s ih =>
    obtain ⟨hc, hs⟩ := List.forall_mem_cons.mp h
    rw [upToBracket?, if_neg hc.2, if_neg hc.1, ih hs]
    rfl

theorem upToBracket?_of_bracketless {s : List Char} (h : Bracketless s) (t : List Char) :
    upToBracket? (s ++ ']' :: t) = some s := by
  induction s with
  | nil => rfl
  | cons c s ih =>
    obtain ⟨hc, hs⟩ := List.forall_mem_cons.mp h
    rw [List.cons_append, upToBracket?, if_neg hc.2, if_neg hc.1, ih hs]
    rfl

theorem tagInner?_of_bracketless {inner : List Char} (hs : inner.head?.any startsTag = true)
    (hb : Bracketless inner) (t : List Char) : tagInner? (inner ++ ']' :: t) = some inner := by
  cases inner with
  | nil => cases hs
  | cons c inner =>
    have hc : startsTag c = true := hs
    rw [List.cons_append, tagInner?, if_pos hc,
      upToBracket?_of_bracketless (List.forall_mem_cons.mp hb).2]
    rfl

theorem bracketless_of_upToBracket? {s inner : List Char} (h : upToBracket? s = some inner) :
    Bracketless inner := by
  induction s generalizing inner with
  | nil => cases h
  | cons c s ih =>
    rw [upToBracket?] at h
    by_cases hc : c = ']'
    · rw [if_pos hc] at h
      cases h
      exact List.forall_mem_nil _
    · rw [if_neg hc] at h
      by_cases ho : c = '['
      · rw [if_pos ho] at h
        cases h
      · rw [if_neg ho] at h
        obtain ⟨r, hr, rfl⟩ := Option.map_eq_some_iff.mp h
        exact List.forall_mem_cons.mpr ⟨⟨ho, hc⟩, ih hr⟩

theorem tagInner?_append {s inner : List Char} (h : tagInner? s = some inner) (t : List Char) :
    tagInner? (inner ++ ']' :: t) = some inner := by
  cases s with
  | nil => cases h
  | cons c s =>
    rw [tagInner?] at h
    by_cases hc : startsTag c = true
    · rw [if_pos hc] at h
      obtain ⟨r, hr, rfl⟩ := Option.map_eq_some_iff.mp h
      rw [List.cons_append, tagInner?, if_pos hc, upToBracket?_of_bracketless (bracketless_of_upToBracket? hr)]
      rfl
    · rw [if_neg hc] at h
      cases h

theorem tagInner?_eq_none {c : Char} (h : startsTag c = false) (s : List Char) :
    tagInner? (c :: s) = none := by
  rw [tagInner?, h]
  rfl

/-! ### Tags that go on -/

/-- What stands before and inside of a bracket that begins a tag which the text does not end. -/
def openTag? : List Char → Option (List Char × List Char)
  | [] => none
  | c :: s =>
    match openTag? s with
    | some (before, inside) => some (c :: before, inside)
    | none => if c = '[' ∧ s.head?.any startsTag = true ∧ Bracketless s then some ([], s) else none

/-- No tag begins in a text and ends in the one behind it. -/
structure Apart (s t : List Char) : Prop where
  next : tagInner? t = none
  across : upToBracket? t = none ∨ openTag? s = none

theorem openTag?_tail {c : Char} {s : List Char} (h : openTag? (c :: s) = none) :
    openTag? s = none := by
  rw [openTag?] at h
  split at h
  · cases h
  · assumption

theorem openTag?_bracketless {s : List Char} (h : Bracketless s) : openTag? s = none := by
  induction s with
  | nil => rfl
  | cons c s ih =>
    obtain ⟨hc, hs⟩ := List.forall_mem_cons.mp h
    rw [openTag?, ih hs]
    exact if_neg fun he => hc.1 he.1

/-- A tag stays open if nothing but its inside follows its bracket. -/
theorem openTag?_eq_some_iff {s before inside : List Char} :
    openTag? s = some (before, inside) ↔
      s = before ++ '[' :: inside ∧ inside.head?.any startsTag = true ∧ Bracketless inside := by
  constructor
  · intro h
    induction s generalizing before with
    | nil => cases h
    | cons c s ih =>
      rw [openTag?] at h
      cases hs : openTag? s with
      | some found =>
        rw [hs] at h
        cases h
        obtain ⟨rfl, ho⟩ := ih hs
        exact ⟨rfl, ho⟩
      | none =>
        rw [hs] at h
        obtain ⟨⟨rfl, ho⟩, he⟩ := Option.ite_none_right_eq_some.mp h
        cases he
        exact ⟨rfl, ho⟩
  · rintro ⟨rfl, hi, hb⟩
    induction before with
    | nil =>
      rw [List.nil_append, openTag?, openTag?_bracketless hb]
      exact if_pos ⟨rfl, hi, hb⟩
    | cons c before ih => rw [List.cons_append, openTag?, ih]

theorem Apart.tail {c : Char} {s t : List Char} (h : Apart (c :: s) t) : Apart s t :=
  ⟨h.next, h.across.imp_right openTag?_tail⟩

theorem Apart.drop {s t : List Char} (h : Apart s t) (n : Nat) : Apart (s.drop n) t := by
  induction n generalizing s with
  | zero => exact h
  | succ n ih =>
    cases s with
    | nil => exact h
    | cons c s => exact ih h.tail

/-- A bracket behind which nothing is closed goes on into a text that closes nothing. -/
theorem Apart.upToBracket?_eq_none {c : Char} {s t : List Char} (h : Apart ('[' :: c :: s) t)
    (hc : startsTag c = true) (hs : Bracketless s) : upToBracket? t = none := by
  refine h.across.resolve_right fun ho => ?_
  have hb : Bracketless (c :: s) := by
    refine List.forall_mem_cons.mpr ⟨⟨?_, ?_⟩, hs⟩ <;>
    · rintro rfl
      exact absurd hc (by decide)
  have hsome : openTag? ('[' :: c :: s) = some ([], c :: s) :=
    openTag?_eq_some_iff.mpr ⟨rfl, hc, hb⟩
  rw [ho] at hsome
  cases hsome

theorem upToBracket?_append_of_none {s t : List Char} (h : upToBracket? s = none)
    (ht : Bracketless s → upToBracket? t = none) : upToBracket? (s ++ t) = none := by
  induction s with
  | nil => exact ht (List.forall_mem_nil _)
  | cons c s ih =>
    rw [upToBracket?] at h
    rw [List.cons_append, upToBracket?]
    by_cases hc : c = ']'
    · rw [if_pos hc] at h
      cases h
    · rw [if_neg hc] at h ⊢
      by_cases ho : c = '['
      · rw [if_pos ho]
      · rw [if_neg ho, Option.map_eq_none_iff] at h
        rw [if_neg ho, ih h fun hs => ht (List.forall_mem_cons.mpr ⟨⟨ho, hc⟩, hs⟩)]
        rfl

theorem tagInner?_append_of_none {s t : List Char} (ha : Apart ('[' :: s) t)
    (h : tagInner? s = none) : tagInner? (s ++ t) = none := by
  cases s with
  | nil => exact ha.next
  | cons c s =>
    by_cases hs : startsTag c = true
    · rw [tagInner?, if_pos hs, Option.map_eq_none_iff] at h
      rw [List.cons_append, tagInner?, if_pos hs, upToBracket?_append_of_none h (ha.upToBracket?_eq_none hs)]
      rfl
    · rw [Bool.not_eq_true] at hs
      exact tagInner?_eq_none hs _

theorem apart_of_bracketless (s : List Char) {t : List Char} (h : Bracketless t) : Apart s t := by
  refine ⟨?_, .inl (upToBracket?_bracketless h)⟩
  cases t with
  | nil => rfl
  | cons c t =>
    rw [tagInner?, upToBracket?_bracketless (List.forall_mem_cons.mp h).2]
    cases startsTag c <;> rfl

/-! ### Scans -/

/-- A scan of a text with some backslashes before it: the parts that it finds, but for the backslashes
that the text ends in, and how many these are. -/
inductive Scanned : Nat → List Char → List MarkupPiece → Nat → Prop
  | done {k : Nat} : Scanned k [] [] k
  | backslash {k n : Nat} {s : List Char} {pieces : List MarkupPiece} (h : Scanned (k + 1) s pieces n) :
      Scanned k ('\\' :: s) pieces n
  | plain {k n : Nat} {c : Char} {s : List Char} {pieces : List MarkupPiece} (hb : c ≠ '\\')
      (ht : c = '[' → tagInner? s = none) (h : Scanned 0 s pieces n) :
      Scanned k (c :: s) (List.replicate k (.char '\\') ++ .char c :: pieces) n
  | tag {k n : Nat} {s inner : List Char} {pieces : List MarkupPiece} (ht : tagInner? s = some inner)
      (h : Scanned 0 (s.drop (inner.length + 1)) pieces n) :
      Scanned k ('[' :: s) (.tag k inner :: pieces) n

theorem exists_scanned (k : Nat) (s : List Char) : ∃ pieces n, Scanned k s pieces n := by
  -- a tag takes several characters at once, so the induction is on the length
  induction hn : s.length using Nat.strongRecOn generalizing s k with
  | _ length ih =>
    subst hn
    cases s with
    | nil => exact ⟨_, _, .done⟩
    | cons c s =>
      by_cases hb : c = '\\'
      · subst hb
        obtain ⟨pieces, n, h⟩ := ih s.length (by simp) (k + 1) s rfl
        exact ⟨_, _, .backslash h⟩
      · by_cases hi : ∃ inner, c = '[' ∧ tagInner? s = some inner
        · obtain ⟨inner, rfl, hi⟩ := hi
          have hd : (s.drop (inner.length + 1)).length < ('[' :: s).length := by
            rw [List.length_drop, List.length_cons]
            omega
          obtain ⟨pieces, n, h⟩ := ih _ hd 0 _ rfl
          exact ⟨_, _, .tag hi h⟩
        · have hn : c = '[' → tagInner? s = none := by
            intro hc
            exact Option.eq_none_iff_forall_ne_some.mpr fun inner he => hi ⟨inner, hc, he⟩
          obtain ⟨pieces, n, h⟩ := ih s.length (by simp) 0 s rfl
          exact ⟨_, _, .plain hb hn h⟩

variable {k n : Nat} {s t : List Char} {pieces : List MarkupPiece}

/-- A scan goes on in what follows, unless a tag does. -/
theorem Scanned.append (h : Scanned k s pieces n) (ha : Apart s t) :
    scanMarkup 0 k (s ++ t) = pieces ++ scanMarkup 0 n t := by
  induction h with
  | done => rfl
  | backslash _ ih =>
    rw [List.cons_append, scanMarkup, if_pos rfl]
    exact ih ha.tail
  | plain hb ht _ ih =>
    have ht' := fun hc => tagInner?_append_of_none (by rw [← hc]; exact ha) (ht hc)
    rw [List.cons_append, scanMarkup_plain hb ht', ih ha.tail, List.append_assoc]
    rfl
  | @tag k n s inner pieces ht _ ih =>
    have hs : inner ++ ']' :: (s.drop (inner.length + 1) ++ t) = s ++ t := by
      conv => rhs; rw [← eq_of_tagInner? ht, List.append_assoc]
      rfl
    have hd : (inner ++ ']' :: (s.drop (inner.length + 1) ++ t)).drop (inner.length + 1) =
        s.drop (inner.length + 1) ++ t := by
      rw [List.drop_append, List.drop_eq_nil_of_le (Nat.le_succ _), Nat.add_sub_cancel_left]
      rfl
    rw [List.cons_append, ← hs, scanMarkup_tag (tagInner?_append ht _), hd, ih (ha.tail.drop _)]
    rfl

theorem Scanned.scan_eq (h : Scanned k s pieces n) :
    scanMarkup 0 k s = pieces ++ List.replicate n (.char '\\') := by
  have ha := h.append (t := []) ⟨rfl, .inl rfl⟩
  rwa [List.append_nil] at ha

/-! ### Tags in escaped text -/

/-- A text in escaped form, `backslashes` standing before it. -/
def escapedFrom (backslashes : Nat) (s : List Char) : List Char :=
  (scanMarkup 0 backslashes s).flatMap MarkupPiece.escaped

theorem flatMap_escaped_replicate (n : Nat) :
    (List.replicate n (MarkupPiece.char '\\')).flatMap MarkupPiece.escaped =
      List.replicate n '\\' := by
  induction n with
  | zero => rfl
  | succ n ih => rw [List.replicate_succ, List.flatMap_cons, ih]; rfl

theorem escapedFrom_nil (backslashes : Nat) :
    escapedFrom backslashes [] = List.replicate backslashes '\\' := by
  rw [escapedFrom, scanMarkup, flatMap_escaped_replicate]

theorem escapedFrom_backslash (backslashes : Nat) (s : List Char) :
    escapedFrom backslashes ('\\' :: s) = escapedFrom (backslashes + 1) s := by
  rw [escapedFrom, scanMarkup, if_pos rfl, escapedFrom]

theorem escapedFrom_plain {c : Char} (hb : c ≠ '\\') {s : List Char}
    (ht : c = '[' → tagInner? s = none) (backslashes : Nat) :
    escapedFrom backslashes (c :: s) =
      List.replicate backslashes '\\' ++ c :: escapedFrom 0 s := by
  rw [escapedFrom, scanMarkup_plain hb ht, List.flatMap_append, flatMap_escaped_replicate]
  rfl

theorem escapedFrom_tag {s inner : List Char} (h : tagInner? s = some inner) (backslashes : Nat) :
    escapedFrom backslashes ('[' :: s) =
      List.replicate (2 * backslashes + 1) '\\' ++
        '[' :: (inner ++ ']' :: escapedFrom 0 (s.drop (inner.length + 1))) := by
  rw [escapedFrom, scanMarkup_tag h, List.flatMap_cons, escapedFrom]
  simp [MarkupPiece.escaped, MarkupPiece.text]

theorem upToBracket?_backslashes (n : Nat) {s : List Char} (h : upToBracket? s = none) :
    upToBracket? (List.replicate n '\\' ++ s) = none := by
  induction n with
  | zero => exact h
  | succ n ih =>
    rw [List.replicate_succ, List.cons_append, upToBracket?, if_neg (by decide),
      if_neg (by decide), ih]
    rfl

/-- Escaping puts backslashes only before opening brackets, so it closes no bracket. -/
theorem upToBracket?_escapedFrom {s t : List Char} (h : upToBracket? s = none)
    (ht : Bracketless s → upToBracket? t = none) (backslashes : Nat) :
    upToBracket? (escapedFrom backslashes s ++ t) = none := by
  induction s generalizing backslashes with
  | nil =>
    rw [escapedFrom_nil]
    exact upToBracket?_backslashes _ (ht (List.forall_mem_nil _))
  | cons c s ih =>
    rw [upToBracket?] at h
    by_cases hb : c = '\\'
    · subst hb
      rw [if_neg (by decide), if_neg (by decide), Option.map_eq_none_iff] at h
      rw [escapedFrom_backslash]
      exact ih h (fun hs => ht (List.forall_mem_cons.mpr ⟨by decide, hs⟩)) _
    · by_cases hc : c = ']'
      · rw [if_pos hc] at h
        cases h
      · by_cases ho : c = '['
        · subst ho
          cases hi : tagInner? s with
          | none =>
            rw [escapedFrom_plain hb (fun _ => hi), List.append_assoc]
            exact upToBracket?_backslashes _ rfl
          | some inner =>
            rw [escapedFrom_tag hi, List.append_assoc]
            exact upToBracket?_backslashes _ rfl
        · rw [if_neg hc, if_neg ho, Option.map_eq_none_iff] at h
          rw [escapedFrom_plain hb (fun he => absurd he ho), List.append_assoc]
          refine upToBracket?_backslashes _ ?_
          rw [List.cons_append, upToBracket?, if_neg hc, if_neg ho,
            ih h (fun hs => ht (List.forall_mem_cons.mpr ⟨⟨ho, hc⟩, hs⟩))]
          rfl

theorem tagInner?_backslashes {n : Nat} (hn : 0 < n) (s : List Char) :
    tagInner? (List.replicate n '\\' ++ s) = none := by
  cases n with
  | zero => omega
  | succ n => exact tagInner?_eq_none (by decide) _

theorem tagInner?_escapedFrom_succ (n : Nat) (s t : List Char) :
    tagInner? (escapedFrom (n + 1) s ++ t) = none := by
  induction s generalizing n with
  | nil =>
    rw [escapedFrom_nil]
    exact tagInner?_backslashes (by omega) t
  | cons c s ih =>
    by_cases hb : c = '\\'
    · subst hb
      rw [escapedFrom_backslash]
      exact ih (n + 1)
    · cases hi : if c = '[' then tagInner? s else none with
      | none =>
        have hn : c = '[' → tagInner? s = none := by
          intro hc
          rwa [if_pos hc] at hi
        rw [escapedFrom_plain hb hn, List.append_assoc]
        exact tagInner?_backslashes (by omega) _
      | some inner =>
        by_cases hc : c = '['
        · rw [if_pos hc] at hi
          rw [hc, escapedFrom_tag hi, List.append_assoc]
          exact tagInner?_backslashes (by omega) _
        · rw [if_neg hc] at hi
          cases hi

/-- A bracket that begins no tag begins none in the escaped text. -/
theorem tagInner?_escapedFrom {s t : List Char} (ha : Apart ('[' :: s) t) (h : tagInner? s = none) :
    tagInner? (escapedFrom 0 s ++ t) = none := by
  cases s with
  | nil =>
    rw [escapedFrom_nil]
    exact ha.next
  | cons c s =>
    by_cases hs : startsTag c = true
    · have hb : c ≠ '\\' := by
        rintro rfl
        exact absurd hs (by decide)
      have ho : c ≠ '[' := by
        rintro rfl
        exact absurd hs (by decide)
      rw [tagInner?, if_pos hs, Option.map_eq_none_iff] at h
      rw [escapedFrom_plain hb (fun he => absurd he ho)]
      show tagInner? (c :: (escapedFrom 0 s ++ t)) = none
      rw [tagInner?, if_pos hs, upToBracket?_escapedFrom h (ha.upToBracket?_eq_none hs)]
      rfl
    · rw [Bool.not_eq_true] at hs
      by_cases hb : c = '\\'
      · subst hb
        rw [escapedFrom_backslash]
        exact tagInner?_escapedFrom_succ 0 s t
      · by_cases ho : c = '['
        · subst ho
          cases hi : tagInner? s with
          | none =>
            rw [escapedFrom_plain hb (fun _ => hi)]
            exact tagInner?_eq_none hs _
          | some inner =>
            rw [escapedFrom_tag hi, List.append_assoc]
            exact tagInner?_backslashes (by omega) _
        · rw [escapedFrom_plain hb (fun he => absurd he ho)]
          exact tagInner?_eq_none hs _

/-! ### Scans of escaped text -/

theorem map_guarded_replicate (n : Nat) :
    (List.replicate n (MarkupPiece.char '\\')).map MarkupPiece.guarded =
      List.replicate n (.char '\\') := List.map_replicate

/-- Escaped text that is scanned again has the same parts, with its tags guarded, and ends in as many
backslashes. -/
theorem Scanned.escaped_append {k n : Nat} {s t : List Char} {pieces : List MarkupPiece}
    (h : Scanned k s pieces n) (ha : Apart s t) :
    scanMarkup 0 0 (escapedFrom k s ++ t) = pieces.map MarkupPiece.guarded ++ scanMarkup 0 n t := by
  induction h with
  | done => rw [escapedFrom_nil, scanMarkup_replicate, Nat.zero_add, List.map_nil, List.nil_append]
  | backslash _ ih =>
    rw [escapedFrom_backslash]
    exact ih ha.tail
  | plain hb ht _ ih =>
    have ht' := fun hc => tagInner?_escapedFrom (by rw [← hc]; exact ha) (ht hc)
    rw [escapedFrom_plain hb ht, List.append_assoc, scanMarkup_replicate, List.cons_append,
      scanMarkup_plain hb ht', ih ha.tail, Nat.zero_add, List.map_append, map_guarded_replicate,
      List.append_assoc]
    rfl
  | @tag k n s inner pieces ht _ ih =>
    have hr : (inner ++ ']' :: (escapedFrom 0 (s.drop (inner.length + 1)) ++ t)).drop
        (inner.length + 1) = escapedFrom 0 (s.drop (inner.length + 1)) ++ t := by
      rw [List.drop_append, List.drop_eq_nil_of_le (Nat.le_succ _), Nat.add_sub_cancel_left]
      rfl
    rw [escapedFrom_tag ht, List.append_assoc, scanMarkup_replicate, List.cons_append,
      List.append_assoc, List.cons_append, scanMarkup_tag (tagInner?_append ht _), Nat.zero_add, hr,
      ih (ha.tail.drop _)]
    rfl

theorem scanMarkup_escapedFrom {t : List Char} (ht : Bracketless t) (backslashes : Nat)
    (s : List Char) :
    scanMarkup 0 0 (escapedFrom backslashes s ++ t) =
      (scanMarkup 0 backslashes s).map MarkupPiece.guarded ++ t.map .char := by
  obtain ⟨pieces, n, h⟩ := exists_scanned backslashes s
  rw [h.escaped_append (apart_of_bracketless s ht), h.scan_eq, scanMarkup_bracketless ht,
    List.map_append, map_guarded_replicate, List.append_assoc]

end Preflight.Report

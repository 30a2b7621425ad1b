import Preflight.Text.Encoding

/-!
# Reading back what was written in UTF-8

`decodeUtf8From_utf8`: the bytes of a text are read as that text, from any position and whether or
not surrogates are let through; so they are when faults are passed over (`utf8Lossy_utf8`). The first
bytes of a text that begins with two ASCII characters, neither of them zero, suggest no other encoding
(`decodeGuessed_utf8`).
-/

namespace Preflight.Text

theorem toNat_ofNat_of_lt {n : Nat} (h : n < 256) : (UInt8.ofNat n).toNat = n := by
  rw [UInt8.toNat_ofNat', Nat.mod_eq_of_lt h]

theorem isContinuation_ofNat {n : Nat} (h : n < 64) :
    isContinuation (UInt8.ofNat (0x80 + n)) = true := by
  unfold isContinuation
  rw [toNat_ofNat_of_lt (by omega), beq_iff_eq]
  omega

theorem continued_ofNat {n m : Nat} (h : m < 64) (bs : List UInt8) :
    continued n (UInt8.ofNat (0x80 + m) :: bs) = continued (n * 64 + m) bs := by
  unfold continued
  rw [List.foldl_cons, toNat_ofNat_of_lt (by omega)]
  congr 1
  omega

theorem isValidChar_toNat (c : Char) : c.toNat < 0xD800 ∨ 0xDFFF < c.toNat ∧ c.toNat < 0x110000 :=
  c.valid

/-- The byte behind the first of three is in its range, since the code point takes three bytes and
is no surrogate. -/
theorem mayFollow_three {n : Nat} (hlo : 0x800 ≤ n) (hhi : n < 0x10000)
    (hv : n < 0xD800 ∨ 0xDFFF < n) :
    mayFollow (UInt8.ofNat (0xE0 + n / 4096)) (UInt8.ofNat (0x80 + n / 64 % 64)) = true := by
  unfold mayFollow
  rw [isContinuation_ofNat (by omega), toNat_ofNat_of_lt (by omega), toNat_ofNat_of_lt (by omega),
    Bool.true_and]
  split
  · rw [decide_eq_true_eq]
    omega
  · rw [decide_eq_true_eq]
    omega
  · omega
  · omega
  · rfl

/-- The byte behind the first of four is in its range, since the code point takes four bytes and
is not past the last one. -/
theorem mayFollow_four {n : Nat} (hlo : 0x10000 ≤ n) (hhi : n < 0x110000) :
    mayFollow (UInt8.ofNat (0xF0 + n / 262144)) (UInt8.ofNat (0x80 + n / 4096 % 64)) = true := by
  unfold mayFollow
  rw [isContinuation_ofNat (by omega), toNat_ofNat_of_lt (by omega), toNat_ofNat_of_lt (by omega),
    Bool.true_and]
  split
  · omega
  · omega
  · rw [decide_eq_true_eq]
    omega
  · rw [decide_eq_true_eq]
    omega
  · rfl

theorem takeChar_encodeChar (c : Char) (rest : List UInt8) :
    ∃ a bs, encodeChar c = a :: bs ∧ takeChar a (bs ++ rest) = .char c (bs.length + 1) := by
  have hv := isValidChar_toNat c
  unfold encodeChar
  generalize hn : c.toNat = n at hv ⊢
  have hc : Char.ofNat n = c := by rw [← hn, Char.ofNat_toNat]
  by_cases h1 : n < 0x80
  · refine ⟨_, _, if_pos h1, ?_⟩
    unfold takeChar
    simp only [toNat_ofNat_of_lt (show n < 256 by omega), if_pos h1, hc, List.length_nil]
  rw [if_neg h1]
  by_cases h2 : n < 0x800
  · refine ⟨_, _, if_pos h2, ?_⟩
    unfold takeChar
    rw [List.cons_append]
    simp only [toNat_ofNat_of_lt (show 0xC0 + n / 64 < 256 by omega),
      isContinuation_ofNat (show n % 64 < 64 by omega), continued_ofNat (show n % 64 < 64 by omega)]
    rw [if_neg (by omega), if_neg (by omega), if_pos (by omega), if_pos trivial]
    have he : (0xC0 + n / 64) % 32 * 64 + n % 64 = n := by omega
    rw [he, continued, List.foldl_nil, hc]
    rfl
  rw [if_neg h2]
  by_cases h3 : n < 0x10000
  · refine ⟨_, _, if_pos h3, ?_⟩
    have hm := mayFollow_three (by omega) h3 (by omega)
    unfold takeChar
    rw [List.cons_append, List.cons_append]
    simp only [toNat_ofNat_of_lt (show 0xE0 + n / 4096 < 256 by omega), hm,
      isContinuation_ofNat (show n % 64 < 64 by omega), continued_ofNat (show n % 64 < 64 by omega),
      continued_ofNat (show n / 64 % 64 < 64 by omega)]
    rw [if_neg (by omega), if_neg (by omega), if_neg (by omega), if_pos (by omega),
      if_neg (by decide), if_pos trivial]
    have he : ((0xE0 + n / 4096) % 16 * 64 + n / 64 % 64) * 64 + n % 64 = n := by omega
    rw [he, continued, List.foldl_nil, hc]
    rfl
  · rw [if_neg h3]
    refine ⟨_, _, rfl, ?_⟩
    have hm := mayFollow_four (n := n) (by omega) (by omega)
    unfold takeChar
    rw [List.cons_append, List.cons_append, List.cons_append]
    simp only [toNat_ofNat_of_lt (show 0xF0 + n / 262144 < 256 by omega), hm,
      isContinuation_ofNat (show n % 64 < 64 by omega), continued_ofNat (show n % 64 < 64 by omega),
      isContinuation_ofNat (show n / 64 % 64 < 64 by omega),
      continued_ofNat (show n / 64 % 64 < 64 by omega),
      continued_ofNat (show n / 4096 % 64 < 64 by omega)]
    rw [if_neg (by omega), if_neg (by omega), if_neg (by omega), if_neg (by omega),
      if_pos (by omega), if_neg (by decide), if_neg (by decide), if_pos trivial]
    have he : (((0xF0 + n / 262144) % 8 * 64 + n / 4096 % 64) * 64 + n / 64 % 64) * 64 + n % 64 =
        n := by omega
    rw [he, continued, List.foldl_nil, hc]
    rfl

/-- The bytes of a text are read as that text. -/
theorem decodeUtf8From_utf8 (surrogates : Bool) (fuel pos : Nat) (s : List Char)
    (h : (utf8 s).length ≤ fuel) : decodeUtf8From surrogates fuel pos (utf8 s) = .ok s := by
  induction s generalizing fuel pos with
  | nil => cases fuel <;> rfl
  | cons c s ih =>
    obtain ⟨a, bs, he, ht⟩ := takeChar_encodeChar c (utf8 s)
    have hu : utf8 (c :: s) = a :: (bs ++ utf8 s) := by
      rw [utf8, List.flatMap_cons, he]
      rfl
    rw [hu] at h ⊢
    rw [List.length_cons, List.length_append] at h
    cases fuel with
    | zero => omega
    | succ fuel =>
      rw [decodeUtf8From, ht]
      show (c :: ·) <$> decodeUtf8From surrogates fuel _ ((bs ++ utf8 s).drop (bs.length + 1 - 1)) = _
      rw [Nat.add_sub_cancel, List.drop_left, ih fuel _ (by omega)]
      rfl

theorem decodeLossy_utf8 (fuel : Nat) (s : List Char) (h : (utf8 s).length ≤ fuel) :
    decodeLossy fuel (utf8 s) = s := by
  induction s generalizing fuel with
  | nil => cases fuel <;> rfl
  | cons c s ih =>
    obtain ⟨a, bs, he, ht⟩ := takeChar_encodeChar c (utf8 s)
    have hu : utf8 (c :: s) = a :: (bs ++ utf8 s) := by
      rw [utf8, List.flatMap_cons, he]
      rfl
    rw [hu] at h ⊢
    rw [List.length_cons, List.length_append] at h
    cases fuel with
    | zero => omega
    | succ fuel =>
      rw [decodeLossy, ht]
      show c :: decodeLossy fuel ((bs ++ utf8 s).drop (bs.length + 1 - 1)) = _
      rw [Nat.add_sub_cancel, List.drop_left, ih fuel (by omega)]

theorem utf8Lossy_utf8 (s : List Char) : utf8Lossy (utf8 s) = s :=
  decodeLossy_utf8 _ s (Nat.le_refl _)

theorem encodeChar_of_ascii {c : Char} (h : c.toNat < 0x80) :
    encodeChar c = [UInt8.ofNat c.toNat] := by
  unfold encodeChar
  exact if_pos h

/-- An ASCII character that is not zero. -/
def IsPlainAscii (c : Char) : Prop := 0 < c.toNat ∧ c.toNat < 0x80

instance (c : Char) : Decidable (IsPlainAscii c) := inferInstanceAs (Decidable (_ ∧ _))

/-- Every byte order mark begins with a zero or with a byte beyond ASCII. -/
theorem exists_mark_head {m : List UInt8 × Encoding} (h : m ∈ byteOrderMarks) :
    ∃ c rest, m.1 = c :: rest ∧ (c = 0 ∨ 0x80 ≤ c.toNat) := by
  unfold byteOrderMarks at h
  rcases List.mem_cons.mp h with rfl | h
  · exact ⟨0x00, _, rfl, .inl rfl⟩
  rcases List.mem_cons.mp h with rfl | h
  · exact ⟨0xFF, _, rfl, .inr (by decide)⟩
  rcases List.mem_cons.mp h with rfl | h
  · exact ⟨0xFE, _, rfl, .inr (by decide)⟩
  rcases List.mem_cons.mp h with rfl | h
  · exact ⟨0xFF, _, rfl, .inr (by decide)⟩
  rcases List.mem_cons.mp h with rfl | h
  · exact ⟨0xEF, _, rfl, .inr (by decide)⟩
  · cases h

/-- Bytes that begin with two between 1 and 127 are taken for UTF-8 without a mark. -/
theorem guessEncoding_of_ascii {a b : UInt8} (ha : 0 < a.toNat ∧ a.toNat < 0x80)
    (hb : 0 < b.toNat) (rest : List UInt8) : guessEncoding (a :: b :: rest) = (.utf8, 0) := by
  have ha0 : a ≠ 0 := by
    rintro rfl
    exact absurd ha.1 (by decide)
  have hb0 : b ≠ 0 := by
    rintro rfl
    exact absurd hb (by decide)
  have hm : byteOrderMarks.find? (·.1.isPrefixOf (a :: b :: rest)) = none := by
    refine List.find?_eq_none.mpr fun m hm hp => ?_
    obtain ⟨c, cs, hc, h⟩ := exists_mark_head hm
    rw [hc] at hp
    obtain ⟨hca, -⟩ := List.cons_prefix_cons.mp (List.isPrefixOf_iff_prefix.mp hp)
    rcases h with h | h
    · exact ha0 (hca.symm.trans h)
    · rw [hca] at h
      omega
  have hu : guessUnmarked (a :: b :: rest) = .utf8 := by
    cases rest with
    | nil => rw [guessUnmarked, if_neg ha0, if_neg hb0]
    | cons c rest =>
      cases rest with
      | nil => rfl
      | cons d rest => rw [guessUnmarked, if_neg ha0, if_neg hb0]
  unfold guessEncoding
  rw [hm, hu]

/-- A text that begins with two plain ASCII characters is read back whatever encoding its bytes
suggest: they suggest UTF-8. -/
theorem decodeGuessed_utf8 {a b : Char} (ha : IsPlainAscii a) (hb : IsPlainAscii b)
    (s : List Char) : decodeGuessed (utf8 (a :: b :: s)) = .ok (a :: b :: s) := by
  have hu : utf8 (a :: b :: s) = UInt8.ofNat a.toNat :: UInt8.ofNat b.toNat :: utf8 s := by
    rw [utf8, List.flatMap_cons, List.flatMap_cons, encodeChar_of_ascii ha.2,
      encodeChar_of_ascii hb.2]
    rfl
  have hg : guessEncoding (utf8 (a :: b :: s)) = (.utf8, 0) := by
    have ha' : (UInt8.ofNat a.toNat).toNat = a.toNat := toNat_ofNat_of_lt (by have := ha.2; omega)
    have hb' : (UInt8.ofNat b.toNat).toNat = b.toNat := toNat_ofNat_of_lt (by have := hb.2; omega)
    rw [hu]
    exact guessEncoding_of_ascii (by rw [ha']; exact ha) (by rw [hb']; exact hb.1) _
  unfold decodeGuessed
  rw [hg]
  exact decodeUtf8From_utf8 true _ 0 _ (Nat.le_refl _)

end Preflight.Text

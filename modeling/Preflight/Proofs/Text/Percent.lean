import Preflight.Proofs.Text.Utf8
import Preflight.Text.Percent

/-!
# Reading back percent escapes

Escaping leaves ASCII characters only, none of which ends the path of a URL or is dropped from a URL
(`isUrlChar_of_mem_percentEncode`), and the bytes that were escaped are read back
(`percentDecode_percentEncode`).
-/

namespace Preflight.Text

/-- A visible ASCII character that does not begin the query or the fragment of a URL. -/
def IsUrlChar (c : Char) : Prop := 0x20 < c.toNat ∧ c.toNat < 0x80 ∧ c ≠ '?' ∧ c ≠ '#'

instance (c : Char) : Decidable (IsUrlChar c) := inferInstanceAs (Decidable (_ ∧ _))

instance (s : List Char) : Decidable (∀ c ∈ s, IsUrlChar c) := List.decidableBAll _ s

/-! ### Bytes -/

theorem hexValue?_hexUpper : ∀ n, n < 16 → hexValue? (hexUpper n) = some n := by decide

theorem isUrlChar_hexUpper : ∀ n, n < 16 → IsUrlChar (hexUpper n) := by decide

/-- The bytes that are not escaped are those of letters, digits and a few signs, a percent sign not among
them. -/
theorem isUrlChar_of_isPathByte : ∀ n, n < 128 → isPathByte (UInt8.ofNat n) = true →
    IsUrlChar (Char.ofNat n) ∧ Char.ofNat n ≠ '%' ∧ (Char.ofNat n).toNat = n := by decide +kernel

theorem lt_of_isPathByte {b : UInt8} (h : isPathByte b = true) : b.toNat < 128 := by
  unfold isPathByte at h
  rw [Bool.and_eq_true, decide_eq_true_eq] at h
  exact h.1

theorem isUrlChar_of_mem_escapeByte {b : UInt8} {c : Char} (h : c ∈ escapeByte b) : IsUrlChar c := by
  have hb : b.toNat < 256 := b.toNat_lt
  unfold escapeByte at h
  split at h
  · next hp =>
    rw [List.mem_singleton] at h
    subst h
    exact (isUrlChar_of_isPathByte _ (lt_of_isPathByte hp) (by rwa [UInt8.ofNat_toNat])).1
  · simp only [List.mem_cons, List.not_mem_nil, or_false] at h
    rcases h with rfl | rfl | rfl
    · decide
    · exact isUrlChar_hexUpper _ (by omega)
    · exact isUrlChar_hexUpper _ (by omega)

theorem unescapeBytes_of_ne {c : Char} (h : c ≠ '%') (s : List Char) :
    unescapeBytes (c :: s) = UInt8.ofNat c.toNat :: unescapeBytes s := by
  rw [unescapeBytes]
  exact fun a b t hc _ => h hc

theorem unescapeBytes_escapeByte (b : UInt8) (s : List Char) :
    unescapeBytes (escapeByte b ++ s) = b :: unescapeBytes s := by
  have hb : b.toNat < 256 := b.toNat_lt
  unfold escapeByte
  split
  · next hp =>
    obtain ⟨-, hne, hn⟩ :=
      isUrlChar_of_isPathByte _ (lt_of_isPathByte hp) (by rwa [UInt8.ofNat_toNat])
    rw [List.singleton_append, unescapeBytes_of_ne hne, hn, UInt8.ofNat_toNat]
  · have he : 16 * (b.toNat / 16) + b.toNat % 16 = b.toNat := Nat.div_add_mod _ _
    rw [List.cons_append, List.cons_append, List.singleton_append, unescapeBytes,
      hexValue?_hexUpper _ (by omega), hexValue?_hexUpper _ (by omega)]
    dsimp only
    rw [he, UInt8.ofNat_toNat]

theorem unescapeBytes_flatMap (bs : List UInt8) : unescapeBytes (bs.flatMap escapeByte) = bs := by
  induction bs with
  | nil => rfl
  | cons b bs ih => rw [List.flatMap_cons, unescapeBytes_escapeByte, ih]

theorem unescapeBytes_of_forall {s : List Char} (h : ∀ c ∈ s, c.toNat < 128 ∧ c ≠ '%') :
    unescapeBytes s = utf8 s := by
  induction s with
  | nil => rfl
  | cons c s ih =>
    obtain ⟨hc, hs⟩ := List.forall_mem_cons.mp h
    rw [unescapeBytes_of_ne hc.2, ih hs, utf8, utf8, List.flatMap_cons, encodeChar_of_ascii hc.1]
    rfl

/-! ### Texts -/

theorem isUrlChar_of_mem_percentEncode {bytes : List UInt8} {c : Char} (h : c ∈ percentEncode bytes) :
    IsUrlChar c := by
  obtain ⟨b, -, hc⟩ := List.mem_flatMap.mp h
  exact isUrlChar_of_mem_escapeByte hc

theorem asciiRun_of_forall {s : List Char} (h : ∀ c ∈ s, c.toNat < 128) : asciiRun true s = (s, []) := by
  induction s with
  | nil => rfl
  | cons c s ih =>
    obtain ⟨hc, hs⟩ := List.forall_mem_cons.mp h
    rw [asciiRun, if_pos (by simpa using hc), ih hs]

/-- A text of ASCII characters is one stretch of bytes. -/
theorem percentDecode_of_ascii {s : List Char} (h : ∀ c ∈ s, c.toNat < 128) :
    percentDecode s = utf8Lossy (unescapeBytes s) := by
  cases s with
  | nil => rw [percentDecode]; rfl
  | cons c s =>
    obtain ⟨hc, hs⟩ := List.forall_mem_cons.mp h
    rw [percentDecode, if_pos hc]
    dsimp only
    rw [asciiRun_of_forall hs, percentDecode, List.append_nil]

theorem percentDecode_of_forall {s : List Char} (h : ∀ c ∈ s, c.toNat < 128 ∧ c ≠ '%') :
    percentDecode s = s := by
  rw [percentDecode_of_ascii fun c hc => (h c hc).1, unescapeBytes_of_forall h, utf8Lossy_utf8]

/-- The bytes that were escaped are read back, as far as they are text. -/
theorem percentDecode_percentEncode (bytes : List UInt8) :
    percentDecode (percentEncode bytes) = utf8Lossy bytes := by
  have hascii : ∀ c ∈ percentEncode bytes, c.toNat < 128 := fun c hc =>
    (isUrlChar_of_mem_percentEncode hc).2.1
  rw [percentDecode_of_ascii hascii, percentEncode, unescapeBytes_flatMap]

end Preflight.Text

import Preflight.Json.Reader
import Preflight.Proofs.Text.Utf8

/-!
# Texts of objects

A text that is read as an object begins with two plain ASCII characters: space, the opening brace,
and what must follow it. So its bytes are read as the same object, though their encoding is only
guessed (`decodeBytes_utf8`).
-/

namespace Preflight.Json

open Text

theorem readNumber_ne_object {s rest : List Char} {members : Members} :
    readNumber s ≠ .ok (.object members, rest) := by
  intro h
  unfold readNumber at h
  split at h
  split at h
  · cases h
  · -- the bound on digits is asked first, inside the test for a whole number
    dsimp only at h
    split at h
    · split at h
      · cases h
      · cases h
    · cases h

theorem readMembers_head {fuel : Nat} {s rest : List Char} {ms : List (String × Value)}
    (h : readMembers fuel s = .ok (ms, rest)) : ∃ t, s = '\x22' :: t := by
  cases fuel with
  | zero => cases h
  | succ fuel =>
    unfold readMembers at h
    split at h
    · next t => exact ⟨t, rfl⟩
    · cases h

/-- An object is written with a brace first, and behind it, past the space, the other brace or a
name. -/
theorem readValue_object {fuel : Nat} {s rest : List Char} {members : Members}
    (h : readValue fuel s = .ok (.object members, rest)) :
    ∃ t, s = '\x7b' :: t ∧ ∃ c u, skipSpace t = c :: u ∧ (c = '\x7d' ∨ c = '\x22') := by
  unfold readValue at h
  split at h
  · cases h
  · next s' => cases hs : readString ('\x22' :: s') none s' <;> rw [hs] at h <;> cases h
  · next fuel t =>
    split at h
    · cases h
    · cases hi : readItems fuel (skipSpace t) <;> rw [hi] at h <;> cases h
  · next fuel t =>
    refine ⟨t, rfl, ?_⟩
    split at h
    · next u heq => exact ⟨_, u, heq, .inl rfl⟩
    · cases hm : readMembers fuel (skipSpace t) with
      | error stop =>
        rw [hm] at h
        cases h
      | ok read =>
        obtain ⟨u, hu⟩ := readMembers_head hm
        exact ⟨_, u, hu, .inr rfl⟩
  · cases h
  · cases h
  · cases h
  · cases h
  · cases h
  · cases h
  · exact absurd h readNumber_ne_object

theorem exists_brace {text : List Char} {members : Members}
    (h : decodeChars text = .ok (.object members)) :
    ∃ t, skipSpace text = '\x7b' :: t ∧ ∃ c u, skipSpace t = c :: u ∧ (c = '\x7d' ∨ c = '\x22') := by
  unfold decodeChars at h
  cases hd : readDocument text with
  | error stop =>
    rw [hd] at h
    cases h
  | ok v =>
    rw [hd] at h
    cases h
    unfold readDocument at hd
    cases hv : readValue (2 * text.length + 2) (skipSpace text) with
    | error stop =>
      rw [hv] at hd
      cases hd
    | ok read =>
      obtain ⟨v, rest⟩ := read
      rw [hv] at hd
      simp only [bind, Except.bind] at hd
      split at hd
      · cases hd
        exact readValue_object hv
      · cases hd

theorem isPlainAscii_of_isSpace {c : Char} (h : isSpace c = true) : IsPlainAscii c := by
  unfold isSpace at h
  simp only [Bool.or_eq_true, decide_eq_true_eq] at h
  rcases h with ((rfl | rfl) | rfl) | rfl <;> decide

theorem exists_plain_head {s u : List Char} {c : Char} (hc : IsPlainAscii c)
    (h : skipSpace s = c :: u) : ∃ b t, s = b :: t ∧ IsPlainAscii b := by
  cases s with
  | nil => cases h
  | cons b t =>
    refine ⟨b, t, rfl, ?_⟩
    cases hb : isSpace b with
    | true => exact isPlainAscii_of_isSpace hb
    | false =>
      unfold skipSpace at h
      rw [List.dropWhile_cons, hb] at h
      cases h
      exact hc

/-- A text of an object begins with two plain ASCII characters. -/
theorem decodeChars_object {text : List Char} {members : Members}
    (h : decodeChars text = .ok (.object members)) :
    ∃ a b s, text = a :: b :: s ∧ IsPlainAscii a ∧ IsPlainAscii b := by
  obtain ⟨t, ht, c, u, hu, hc⟩ := exists_brace h
  have hc : IsPlainAscii c := by
    rcases hc with rfl | rfl <;> decide
  cases text with
  | nil => cases ht
  | cons a s =>
    cases ha : isSpace a with
    | true =>
      have hs : skipSpace s = '\x7b' :: t := by
        rw [← ht, skipSpace, skipSpace, List.dropWhile_cons, ha]
        rfl
      obtain ⟨b, r, rfl, hb⟩ := exists_plain_head (by decide) hs
      exact ⟨a, b, r, rfl, isPlainAscii_of_isSpace ha, hb⟩
    | false =>
      rw [skipSpace, List.dropWhile_cons, ha] at ht
      cases ht
      obtain ⟨b, r, rfl, hb⟩ := exists_plain_head hc hu
      exact ⟨_, b, r, rfl, by decide, hb⟩

/-- The bytes of a text of an object are read as that object. -/
theorem decodeBytes_utf8 {text : List Char} {members : Members}
    (h : decodeText text = .ok (.object members)) :
    decodeBytes (utf8 text) = .ok (.object members) := by
  have hc : decodeChars text = .ok (.object members) := by
    unfold decodeText at h
    split at h
    · cases h
    · exact h
  obtain ⟨a, b, s, rfl, ha, hb⟩ := decodeChars_object hc
  unfold decodeBytes
  rw [decodeGuessed_utf8 ha hb]
  exact hc

end Preflight.Json

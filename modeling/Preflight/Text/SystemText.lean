import Preflight.Text.Hex
import Preflight.Text.Utf8

/-!
# Texts of the system

Names, variables and arguments are bytes for the system, and the bytes need not be text. In the text that
stands for them each byte that is part of no character is a surrogate, from U+DC80 on. Such a text is
handed back to the system as the bytes it was made of (`systemBytes`); anything else that is to be written
has to be plain (`plain`, `plain_eq_ok_iff`).
-/

namespace Preflight.Text

/-- A character, or a surrogate, counted from U+D800. -/
inductive CodePoint
  | char (c : Char)
  | surrogate (n : Fin 0x800)
  deriving DecidableEq, Repr

abbrev SystemText := List CodePoint

def CodePoint.char? : CodePoint → Option Char
  | .char c => some c
  | .surrogate _ => none

/-- The character shown for a code point: U+FFFD for a surrogate. -/
def CodePoint.shown : CodePoint → Char
  | .char c => c
  | .surrogate _ => '\ufffd'

/-- The byte that a surrogate stands for, if there is one. -/
def escapedByte? (n : Fin 0x800) : Option UInt8 :=
  if 0x480 ≤ n.val ∧ n.val < 0x500 then some (UInt8.ofNat (n.val - 0x400)) else none

def systemText (s : List Char) : SystemText := s.map .char

/-- Surrogates that cannot be written: the positions from `start` up to `stop`, the first being `n`. -/
structure Unwritable where
  start : Nat
  stop : Nat
  n : Fin 0x800
  deriving DecidableEq, Repr

def Unwritable.message (u : Unwritable) : String :=
  let place :=
    if u.stop = u.start + 1 then
      s!"character '\\u{String.ofList (hexDigits 4 (0xD800 + u.n.val))}' in position {u.start}"
    else s!"characters in position {u.start}-{u.stop - 1}"
  s!"'utf-8' codec can't encode {place}: surrogates not allowed"

/-- A surrogate at a position as what cannot be written, with the surrogates that follow it. -/
def unwritable (pos : Nat) (n : Fin 0x800) (rest : SystemText) : Unwritable :=
  ⟨pos, pos + 1 + (rest.takeWhile (·.char?.isNone)).length, n⟩

/-- The characters of a text from position `pos` on, if there is nothing else in it. -/
def plainFrom (pos : Nat) : SystemText → Except Unwritable (List Char)
  | [] => .ok []
  | .char c :: s => (c :: ·) <$> plainFrom (pos + 1) s
  | .surrogate n :: s => .error (unwritable pos n s)

def plain (s : SystemText) : Except Unwritable (List Char) := plainFrom 0 s

/-- The bytes of a text from position `pos` on, as the system takes it. -/
def systemBytesFrom (pos : Nat) : SystemText → Except Unwritable (List UInt8)
  | [] => .ok []
  | .char c :: s => (encodeChar c ++ ·) <$> systemBytesFrom (pos + 1) s
  | .surrogate n :: s =>
    match escapedByte? n with
    | some b => (b :: ·) <$> systemBytesFrom (pos + 1) s
    | none => .error (unwritable pos n s)

def systemBytes (s : SystemText) : Except Unwritable (List UInt8) := systemBytesFrom 0 s

variable {s : List Char}

@[simp] theorem map_shown_systemText (s : List Char) : (systemText s).map CodePoint.shown = s := by
  rw [systemText, List.map_map]
  exact List.map_id s

theorem plainFrom_eq_ok_iff {pos : Nat} {t : SystemText} : plainFrom pos t = .ok s ↔ t = systemText s := by
  induction t generalizing pos s with
  | nil => cases s <;> simp [plainFrom, systemText]
  | cons point t ih =>
    cases point with
    | surrogate n =>
      refine ⟨nofun, fun h => ?_⟩
      cases s <;> cases h
    | char c =>
      rw [plainFrom]
      constructor
      · intro h
        cases hp : plainFrom (pos + 1) t with
        | error signs => rw [hp] at h; cases h
        | ok rest =>
          rw [hp] at h
          cases h
          rw [ih.mp hp]
          rfl
      · intro h
        cases s with
        | nil => cases h
        | cons d s =>
          obtain ⟨hc, ht⟩ := List.cons.inj h
          cases hc
          rw [ih.mpr ht]
          rfl

/-- A text is plain exactly if it is made of characters. -/
theorem plain_eq_ok_iff {t : SystemText} : plain t = .ok s ↔ t = systemText s := plainFrom_eq_ok_iff

@[simp] theorem plain_systemText (s : List Char) : plain (systemText s) = .ok s := plain_eq_ok_iff.mpr rfl

theorem systemBytesFrom_systemText (pos : Nat) (s : List Char) :
    systemBytesFrom pos (systemText s) = .ok (utf8 s) := by
  induction s generalizing pos with
  | nil => rfl
  | cons c s ih =>
    show (encodeChar c ++ ·) <$> systemBytesFrom (pos + 1) (systemText s) = _
    rw [ih]
    rfl

@[simp] theorem systemBytes_systemText (s : List Char) : systemBytes (systemText s) = .ok (utf8 s) :=
  systemBytesFrom_systemText 0 s

theorem systemText_injective : Function.Injective systemText := fun s t h => by
  rw [← map_shown_systemText s, h, map_shown_systemText]

end Preflight.Text

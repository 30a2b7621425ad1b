import Preflight.Gateway.Decode
import Preflight.Proofs.Report.Emoji
import Preflight.Proofs.Report.Escape
import Preflight.Report.Dump

/-!
# Legible text

Text without backslashes and without characters that move to another cell or line is shown on a line as it
is (`Legible.shownLines_eq`), if there are no emoji codes in it (`Verbatim`). The texts of numbers are
legible and begin no tag and no code (`bland_version`).
-/

namespace Preflight.Report

open Gateway Json Text Decimal

/-- Text without backslashes and without characters that move to another cell or line. -/
def Legible (s : List Char) : Prop :=
  ∀ c ∈ s, c ≠ '\\' ∧ c ≠ '\n' ∧ c ≠ '\t' ∧ isDropped c = false

/-- Legible text that begins no tag. -/
def Quiet (s : List Char) : Prop := Tagless s ∧ Legible s

instance (s : List Char) : Decidable (Legible s) := List.decidableBAll _ s

instance (s : List Char) : Decidable (Quiet s) := instDecidableAnd

variable {s t : List Char}

theorem Legible.noBackslash (h : Legible s) : '\\' ∉ s := fun hm => (h _ hm).1 rfl

theorem Legible.append (hs : Legible s) (ht : Legible t) : Legible (s ++ t) :=
  List.forall_mem_append.mpr ⟨hs, ht⟩

theorem Quiet.append (hs : Quiet s) (ht : Quiet t) : Quiet (s ++ t) :=
  ⟨List.forall_mem_append.mpr ⟨hs.1, ht.1⟩, hs.2.append ht.2⟩

/-- Legible text without an emoji code that the screen knows. -/
structure Verbatim (screen : Screen) (s : List Char) : Prop where
  legible : Legible s
  codeless : Codeless screen s

instance (screen : Screen) (s : List Char) : Decidable (Verbatim screen s) :=
  decidable_of_iff (Legible s ∧ Codeless screen s) ⟨fun h => ⟨h.1, h.2⟩, fun h => ⟨h.1, h.2⟩⟩

/-- A fixed text that others may stand behind: it is quiet, and its colons have blanks behind them. -/
structure Fixed (s : List Char) : Prop where
  quiet : Quiet s
  uncoded : codeNames (s.map .char) = []
  blank : s.getLast? = some ' '

instance (s : List Char) : Decidable (Fixed s) :=
  decidable_of_iff (Quiet s ∧ codeNames (s.map .char) = [] ∧ s.getLast? = some ' ')
    ⟨fun h => ⟨h.1, h.2.1, h.2.2⟩, fun h => ⟨h.1, h.2, h.3⟩⟩

theorem Fixed.codeless_append {screen : Screen} (hs : Fixed s) (ht : Codeless screen t) :
    Codeless screen (s ++ t) := by
  obtain ⟨init, rfl⟩ : ∃ init, s = init ++ [' '] := List.getLast?_eq_some_iff.mp hs.blank
  have hcodeless : Codeless screen (init ++ [' ']) := codeless_of_eq_nil hs.uncoded
  rw [List.append_assoc]
  exact (codeless_append (by decide)).mpr ⟨hcodeless.of_append_left, ht⟩

theorem Fixed.verbatim_append {screen : Screen} (hs : Fixed s) (ht : Verbatim screen t) :
    Verbatim screen (s ++ t) :=
  ⟨hs.quiet.2.append ht.legible, hs.codeless_append ht.codeless⟩

theorem Legible.shownLines_eq (h : Legible s) : shownLines s = [s] := by
  have hdrop : dropControls s = s := by
    unfold dropControls
    rw [List.filter_eq_self]
    intro c hc
    rw [(h c hc).2.2.2]
    rfl
  unfold shownLines
  rw [hdrop, split_of_notMem fun hm => (h _ hm).2.1 rfl, List.map_singleton,
    expandTabs_of_notMem fun hm => (h _ hm).2.2.1 rfl]

theorem verbatim_intercalate {screen : Screen} {texts : List (List Char)}
    (h : ∀ text ∈ texts, Verbatim screen text) : Verbatim screen ([',', ' '].intercalate texts) := by
  induction texts with
  | nil => exact ⟨List.forall_mem_nil _, List.forall_mem_nil _⟩
  | cons text texts ih =>
    obtain ⟨ht, hts⟩ := List.forall_mem_cons.mp h
    cases texts with
    | nil => simpa [List.intercalate] using ht
    | cons other texts =>
      have he : [',', ' '].intercalate (text :: other :: texts) =
          text ++ [','] ++ ' ' :: [',', ' '].intercalate (other :: texts) := by
        simp [List.intercalate]
      have hcomma : Legible [',', ' '] := by decide
      rw [he]
      refine ⟨?_, (codeless_append (by decide)).mpr
        ⟨ht.codeless.append_of_notMem (by decide), (ih hts).codeless⟩⟩
      rw [List.append_assoc]
      exact ht.legible.append (hcomma.append (ih hts).legible)

/-! ### Numbers -/

/-- Quiet text without colons. -/
def Bland (s : List Char) : Prop := Quiet s ∧ ':' ∉ s

instance (s : List Char) : Decidable (Bland s) := instDecidableAnd

theorem Bland.verbatim {screen : Screen} (h : Bland s) : Verbatim screen s := ⟨h.1.2, codeless_of_notMem h.2⟩

theorem quiet_iff : Quiet s ↔ ∀ c ∈ s, Quiet [c] := by
  simp only [Quiet, Tagless, Legible, List.forall_mem_singleton, forall_and]

theorem bland_iff : Bland s ↔ ∀ c ∈ s, Bland [c] := by
  constructor
  · rintro ⟨hq, hc⟩ c hm
    exact ⟨quiet_iff.mp hq c hm, fun he => hc (List.mem_singleton.mp he ▸ hm)⟩
  · intro h
    exact ⟨quiet_iff.mpr fun c hm => (h c hm).1, fun hm => (h _ hm).2 (List.mem_singleton_self _)⟩

theorem Bland.append (hs : Bland s) (ht : Bland t) : Bland (s ++ t) := by
  rw [bland_iff]
  exact List.forall_mem_append.mpr ⟨bland_iff.mp hs, bland_iff.mp ht⟩

theorem Bland.mono (ht : Bland t) (h : ∀ c ∈ s, c ∈ t) : Bland s :=
  bland_iff.mpr fun c hc => bland_iff.mp ht c (h c hc)

theorem bland_cons {c : Char} (hc : Bland [c]) (hs : Bland s) : Bland (c :: s) := hc.append hs

theorem bland_toDigits (n : Nat) : Bland (Nat.toDigits 10 n) := by
  rw [bland_iff]
  intro c hc
  have hd := Nat.isDigit_of_mem_toDigits (by decide) (by decide) hc
  have h48 : 48 ≤ c.toNat := by
    simp only [Char.isDigit, Bool.and_eq_true, decide_eq_true_eq, ge_iff_le,
      UInt32.le_iff_toNat_le] at hd
    exact hd.1
  have hne (d : Char) (hn : d.isDigit = false) : c ≠ d := by
    rintro rfl
    rw [hn] at hd
    cases hd
  have hdrop : isDropped c = false := by
    simp only [isDropped, List.contains_eq_mem, decide_eq_false_iff_not, List.mem_cons,
      List.not_mem_nil, or_false]
    omega
  refine ⟨?_, mt List.mem_singleton.mp (hne _ rfl).symm⟩
  simp only [Quiet, Tagless, Legible, List.forall_mem_singleton]
  exact ⟨⟨hne _ rfl, hne _ rfl⟩, hne _ rfl, hne _ rfl, hne _ rfl, hdrop⟩

theorem bland_toString_nat (n : Nat) : Bland (toString n).toList := by
  rw [Nat.toString_eq_ofList_toDigits, String.toList_ofList]
  exact bland_toDigits n

theorem bland_toString_int (n : Int) : Bland (toString n).toList := by
  cases n with
  | ofNat n => exact bland_toString_nat n
  | negSucc n =>
    show Bland ("-" ++ toString (n + 1)).toList
    rw [String.toList_append]
    exact Bland.append (by decide) (bland_toString_nat (n + 1))

theorem bland_zeros (n : Nat) : Bland (List.replicate n '0') :=
  Bland.mono (t := ['0']) (by decide) fun _ hc => List.mem_singleton.mpr (List.eq_of_mem_replicate hc)

theorem bland_layout (h : Bland s) (point : Int) : Bland (layout s point) := by
  have htake (n : Nat) : Bland (s.take n) := h.mono fun _ => List.mem_of_mem_take
  have hdrop (n : Nat) : Bland (s.drop n) := h.mono fun _ => List.mem_of_mem_drop
  have hsize (n : Nat) : Bland (Nat.toDigits 10 n) := bland_toDigits n
  unfold layout
  split
  · split
    · exact bland_cons (by decide) (bland_cons (by decide) ((bland_zeros _).append h))
    · refine ((htake _).append (bland_zeros _)).append (bland_cons (by decide) ?_)
      split
      · decide
      · exact hdrop _
  · refine Bland.append ?_ (bland_cons (by decide) (bland_cons ?_ ?_))
    · split
      · exact h
      · next d ds _ =>
        exact bland_cons (h.mono (by simp)) (bland_cons (by decide) (h.mono fun c hc => by simp [hc]))
      · decide
    · split <;> decide
    · split
      · exact bland_cons (by decide) (hsize _)
      · exact hsize _

theorem bland_text (x : Binary64) : Bland x.text.toList := by
  cases x with
  | nan => decide
  | infinite negative => cases negative <;> decide
  | finite negative m e =>
    have hbody : Bland (if m = 0 then "0.0".toList
        else layout (trimZeros (Nat.toDigits 10 (shortest m e).digits))
          ((Nat.toDigits 10 (shortest m e).digits).length + (shortest m e).power)) := by
      split
      · decide
      · refine bland_layout ((bland_toDigits (shortest m e).digits).mono fun c hc => ?_) _
        have hc := List.dropWhile_sublist _ |>.mem (List.mem_reverse.mp hc)
        exact List.mem_reverse.mp hc
    rw [Binary64.text, String.toList_ofList]
    cases negative with
    | false => exact hbody
    | true => exact bland_cons (by decide) hbody

/-- The version of a configuration that was read is a number. -/
theorem bland_version {version : Value} (h : version.plainEq (.int supportedVersion) = true) :
    Bland version.plain.toList := by
  cases version with
  | null => cases h
  | bool b => cases b <;> decide
  | int n => exact bland_toString_int n
  | float x => exact bland_text x
  | string s => cases h
  | array items => cases h
  | object members => cases h

end Preflight.Report

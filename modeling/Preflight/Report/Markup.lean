import Preflight.Report.Emoji
import Preflight.Report.Style

/-!
# Markup

Report text may hold tags: a bracket, one of the characters `a`–`z`, `#`, `/`, `@`, and whatever
follows up to the next closing bracket, with no opening one between. Tags are not shown. Of the
backslashes before a tag two make one, and a single one left over makes the tag plain text. What is left
of a text has its emoji put in.
`text_pieces` says that scanning loses nothing of a text.
-/

namespace Preflight.Report

open Text

inductive MarkupPiece
  | char (c : Char)
  | tag (backslashes : Nat) (inner : List Char)
  deriving DecidableEq, Repr

def MarkupPiece.text : MarkupPiece → List Char
  | .char c => [c]
  | .tag n inner => List.replicate n '\\' ++ '[' :: (inner ++ [']'])

def startsTag (c : Char) : Bool :=
  (97 ≤ c.toNat && c.toNat ≤ 122) || c == '#' || c == '/' || c == '@'

/-- The text up to the next closing bracket, if no opening one stands before it. -/
def upToBracket? : List Char → Option (List Char)
  | [] => none
  | c :: s => if c = ']' then some [] else if c = '[' then none else (upToBracket? s).map (c :: ·)

/-- The inside of a tag whose opening bracket stands before the text. -/
def tagInner? : List Char → Option (List Char)
  | c :: s => if startsTag c then (upToBracket? s).map (c :: ·) else none
  | [] => none

/-- The parts of a text: `covered` characters at its head belong to a tag already seen, and
`backslashes` stand before it that may belong to a tag. -/
def scanMarkup : Nat → Nat → List Char → List MarkupPiece
  | _, backslashes, [] => List.replicate backslashes (.char '\\')
  | covered + 1, backslashes, _ :: s => scanMarkup covered backslashes s
  | 0, backslashes, c :: s =>
    if c = '\\' then scanMarkup 0 (backslashes + 1) s
    else match if c = '[' then tagInner? s else none with
      | some inner => .tag backslashes inner :: scanMarkup (inner.length + 1) 0 s
      | none => List.replicate backslashes (.char '\\') ++ .char c :: scanMarkup 0 0 s

def markupPieces (s : List Char) : List MarkupPiece := scanMarkup 0 0 s

def MarkupPiece.escaped : MarkupPiece → List Char
  | .char c => [c]
  | .tag n inner => MarkupPiece.text (.tag (2 * n + 1) inner)

def endsInLoneBackslash (s : List Char) : Bool :=
  match s.reverse with
  | '\\' :: '\\' :: _ => false
  | '\\' :: _ => true
  | _ => false

/-- A text whose tags are made plain, also when more markup follows it. -/
def escapeChars (s : List Char) : List Char :=
  let escaped := (markupPieces s).flatMap MarkupPiece.escaped
  if endsInLoneBackslash escaped then escaped ++ ['\\'] else escaped

def escape (s : String) : String := String.ofList (escapeChars s.toList)

inductive MarkupFault
  | unmatched (tag : String) (position : Nat)
  | nothingToClose (position : Nat)
  deriving DecidableEq, Repr

def MarkupFault.message : MarkupFault → String
  | .unmatched tag position =>
    s!"closing tag '{tag}' at position {position} doesn't match any open tag"
  | .nothingToClose position => s!"closing tag '[/]' at position {position} has nothing to close"

/-- The tags left open when one is closed by name: the most recent of that name is taken out. -/
def closeNamed (name : List Char) : List (List Char) → Option (List (List Char))
  | [] => none
  | tag :: tags => if tag = name then some tags else (closeNamed name tags).map (tag :: ·)

def tagName (inner : List Char) : List Char := inner.takeWhile (· != '=')

/-- The style that a tag begins whose name is known as another one: what is behind the name goes with it. -/
def tagStyle (name inner : List Char) : List Char :=
  match inner.dropWhile (· != '=') with
  | [] => name
  | _ :: parameters => name ++ ' ' :: parameters

/-- Takes a tag at a position out of the open ones, by its name, or the most recent if there is no name. -/
def closeTag (position : Nat) (inner name : List Char) (opened : List (List Char)) :
    Except (Failure MarkupFault) (List (List Char)) :=
  match trimBlanks name with
  | [] =>
    match opened with
    | _ :: tags => .ok tags
    | [] => .error (.fault (.nothingToClose position))
  | name => do
    let name ← (normalName name).mapError .mishap
    match closeNamed name opened with
    | some tags => pure tags
    | none => .error (.fault (.unmatched (String.ofList ('[' :: (inner ++ [']']))) position))

/-- The open tags, most recent first, once a tag at a position is read, and the style that it begins. -/
def readTag (position : Nat) (inner : List Char) (opened : List (List Char)) :
    Except (Failure MarkupFault) (List (List Char) × Option (List Char)) :=
  match tagName inner with
  | '/' :: name => do
    let opened ← closeTag position inner name opened
    pure (opened, none)
  | name => do
    let name ← (normalName name).mapError .mishap
    pure (name :: opened, some (tagStyle name inner))

/-- A text as it is left by the parts that it has from a position on. Outside of tags a backslash before an
opening bracket is not shown. -/
def showPieces : Nat → List (List Char) → List MarkupPiece → Except (Failure MarkupFault) (List Sign)
  | _, _, [] => .ok []
  | position, opened, .char '\\' :: .char '[' :: pieces =>
    ((.char '[' :: ·) <$> showPieces (position + 2) opened pieces)
  | position, opened, .char c :: pieces => (.char c :: ·) <$> showPieces (position + 1) opened pieces
  | position, opened, .tag n inner :: pieces => do
    let next := position + n + inner.length + 2
    if n % 2 = 1 then
      let rest ← showPieces next opened pieces
      pure (.tag none :: ((MarkupPiece.tag (n / 2) inner).text.map .char ++ .tag none :: rest))
    else
      let (opened, style) ← readTag (position + n) inner opened
      let rest ← showPieces next opened pieces
      pure ((List.replicate (n / 2) '\\').map .char ++ .tag style :: rest)

/-- A style that is begun is looked up. -/
def Sign.lookUp : Sign → Except Mishap Unit
  | .tag (some style) => do
    let _ ← readStyle style
    pure ()
  | _ => .ok ()

/-- The signs of a text, all styles looked up once its tags are read. -/
def readMarkup (s : List Char) : Except (Failure MarkupFault) (List Sign) := do
  let signs ← showPieces 0 [] (markupPieces s)
  (signs.forM Sign.lookUp).mapError .mishap
  pure signs

def showMarkup (screen : Screen) (s : List Char) : Except (Failure MarkupFault) (List Char) :=
  (readMarkup s).map (withEmoji screen 0)

theorem flatMap_text_replicate (n : Nat) :
    (List.replicate n (MarkupPiece.char '\\')).flatMap MarkupPiece.text = List.replicate n '\\' := by
  induction n with
  | zero => rfl
  | succ n ih => simp [List.replicate_succ, MarkupPiece.text, ih]

theorem eq_of_upToBracket? {s inner : List Char} (h : upToBracket? s = some inner) :
    inner ++ ']' :: s.drop (inner.length + 1) = s := by
  induction s generalizing inner with
  | nil => simp [upToBracket?] at h
  | cons c s ih =>
    simp only [upToBracket?] at h
    split at h
    · next hc => cases h; simp [hc]
    · split at h
      · cases h
      · obtain ⟨r, hr, rfl⟩ := Option.map_eq_some_iff.1 h
        simpa using ih hr

theorem eq_of_tagInner? {s inner : List Char} (h : tagInner? s = some inner) :
    inner ++ ']' :: s.drop (inner.length + 1) = s := by
  cases s with
  | nil => simp [tagInner?] at h
  | cons c s =>
    simp only [tagInner?] at h
    split at h
    · obtain ⟨r, hr, rfl⟩ := Option.map_eq_some_iff.1 h
      simpa using eq_of_upToBracket? hr
    · cases h

theorem flatMap_text_scanMarkup (covered backslashes : Nat) (s : List Char) :
    (scanMarkup covered backslashes s).flatMap MarkupPiece.text =
      List.replicate backslashes '\\' ++ s.drop covered := by
  induction s generalizing covered backslashes with
  | nil => simp [scanMarkup, flatMap_text_replicate]
  | cons c s ih =>
    cases covered with
    | succ covered => simp [scanMarkup, ih]
    | zero =>
      by_cases hc : c = '\\'
      · simp [scanMarkup, hc, ih, List.replicate_succ']
      · simp only [scanMarkup, hc, if_false]
        split
        · next inner h =>
          by_cases hb : c = '['
          · simp only [hb, if_true] at h
            have hs := eq_of_tagInner? h
            simp only [List.flatMap_cons, ih, MarkupPiece.text, List.replicate_zero,
              List.nil_append, List.drop_zero, hb]
            conv => rhs; rw [← hs]
            simp
          · simp [hb] at h
        · simp [ih, MarkupPiece.text, flatMap_text_replicate]

theorem text_pieces (s : List Char) : (markupPieces s).flatMap MarkupPiece.text = s := by
  simp [markupPieces, flatMap_text_scanMarkup]

end Preflight.Report

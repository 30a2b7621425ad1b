import Preflight.Text.Blank
import Preflight.Text.Case

/-!
# Emoji codes

A name between two colons, without blanks, is the code of an emoji if the screen knows that name. An ending
of the name may ask for one of two variants. Codes are looked for from left to right, and not across the
edges of tags.
-/

namespace Preflight.Report

open Text

/-- What a report is shown on: the cells of its lines, and the emoji that it knows by name. -/
structure Screen where
  width : Nat
  emoji : List Char → Option (List Char)

/-- A screen of the usual width that knows no emoji. -/
def plainScreen : Screen := ⟨80, fun _ => none⟩

/-- A text as it is left by its tags: characters, and the edges of tags, one of which may begin a style. -/
inductive Sign
  | char (c : Char)
  | tag (style : Option (List Char))
  deriving DecidableEq, Repr

/-- The endings that ask for a variant, and the characters that do. -/
def variants : List (List Char × Char) := [("-emoji".toList, '\uFE0F'), ("-text".toList, '\uFE0E')]

/-- A name without an ending that asks for a variant, and what asks for it. -/
def splitVariant (name : List Char) : List Char × List Char :=
  match variants.find? (·.1.isSuffixOf name) with
  | some (ending, variant) => (name.take (name.length - ending.length), [variant])
  | none => (name, [])

/-- What the code with a name stands for. -/
def emojiFor (screen : Screen) (name : List Char) : Option (List Char) :=
  let (name, variant) := splitVariant name
  (screen.emoji (name.map lowerChar)).map (· ++ variant)

/-- The name up to the next colon. -/
def codeName? : List Sign → Option (List Char)
  | .char c :: s => if c = ':' then some [] else if isBlank c then none else (codeName? s).map (c :: ·)
  | _ => none

/-- The characters of a text with its emoji; `covered` signs at its head belong to a code already seen. -/
def withEmoji (screen : Screen) : Nat → List Sign → List Char
  | _, [] => []
  | covered + 1, _ :: s => withEmoji screen covered s
  | 0, .tag _ :: s => withEmoji screen 0 s
  | 0, .char c :: s =>
    match if c = ':' then codeName? s else none with
    | some name =>
      (emojiFor screen name).getD (':' :: (name ++ [':'])) ++ withEmoji screen (name.length + 1) s
    | none => c :: withEmoji screen 0 s

end Preflight.Report

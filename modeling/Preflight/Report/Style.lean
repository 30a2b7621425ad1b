import Preflight.Json.Reader
import Preflight.Mishap
import Preflight.Text.Blank
import Preflight.Text.Case
import Preflight.Text.Integer

/-!
# Names of styles

A tag is known by its name. A name that describes a style, by attributes and colors in any order, is
known by the usual description of that style; any other name by its letters in lower case, without
the blanks around it. A color may be given by three numbers, and a mishap it is if one of them is missing.
-/

namespace Preflight.Report

open Json Text

def attributeNames : List String := ["bold", "dim", "italic", "underline", "blink", "blink2",
  "reverse", "conceal", "strike", "underline2", "frame", "encircle", "overline"]

def attributeAliases : List (String × String) := [("b", "bold"), ("d", "dim"), ("i", "italic"),
  ("u", "underline"), ("r", "reverse"), ("c", "conceal"), ("s", "strike"), ("uu", "underline2"),
  ("o", "overline")]

def attribute? (word : String) : Option String :=
  if attributeNames.contains word then some word else attributeAliases.lookup word

def colorNames : List String := ["default", "black", "red", "green", "yellow", "blue", "magenta",
  "cyan", "white", "bright_black", "bright_red", "bright_green", "bright_yellow", "bright_blue",
  "bright_magenta", "bright_cyan", "bright_white", "grey0", "gray0", "navy_blue", "dark_blue",
  "blue3", "blue1", "dark_green", "deep_sky_blue4", "dodger_blue3", "dodger_blue2", "green4",
  "spring_green4", "turquoise4", "deep_sky_blue3", "dodger_blue1", "green3", "spring_green3",
  "dark_cyan", "light_sea_green", "deep_sky_blue2", "deep_sky_blue1", "spring_green2", "cyan3",
  "dark_turquoise", "turquoise2", "green1", "spring_green1", "medium_spring_green", "cyan2",
  "cyan1", "dark_red", "deep_pink4", "purple4", "purple3", "blue_violet", "orange4", "grey37",
  "gray37", "medium_purple4", "slate_blue3", "royal_blue1", "chartreuse4", "dark_sea_green4",
  "pale_turquoise4", "steel_blue", "steel_blue3", "cornflower_blue", "chartreuse3", "cadet_blue",
  "sky_blue3", "steel_blue1", "pale_green3", "sea_green3", "aquamarine3", "medium_turquoise",
  "chartreuse2", "sea_green2", "sea_green1", "aquamarine1", "dark_slate_gray2", "dark_magenta",
  "dark_violet", "purple", "light_pink4", "plum4", "medium_purple3", "slate_blue1", "yellow4",
  "wheat4", "grey53", "gray53", "light_slate_grey", "light_slate_gray", "medium_purple",
  "light_slate_blue", "dark_olive_green3", "dark_sea_green", "light_sky_blue3", "sky_blue2",
  "dark_sea_green3", "dark_slate_gray3", "sky_blue1", "chartreuse1", "light_green", "pale_green1",
  "dark_slate_gray1", "red3", "medium_violet_red", "magenta3", "dark_orange3", "indian_red",
  "hot_pink3", "medium_orchid3", "medium_orchid", "medium_purple2", "dark_goldenrod",
  "light_salmon3", "rosy_brown", "grey63", "gray63", "medium_purple1", "gold3", "dark_khaki",
  "navajo_white3", "grey69", "gray69", "light_steel_blue3", "light_steel_blue", "yellow3",
  "dark_sea_green2", "light_cyan3", "light_sky_blue1", "green_yellow", "dark_olive_green2",
  "dark_sea_green1", "pale_turquoise1", "deep_pink3", "magenta2", "hot_pink2", "orchid",
  "medium_orchid1", "orange3", "light_pink3", "pink3", "plum3", "violet", "light_goldenrod3", "tan",
  "misty_rose3", "thistle3", "plum2", "khaki3", "light_goldenrod2", "light_yellow3", "grey84",
  "gray84", "light_steel_blue1", "yellow2", "dark_olive_green1", "honeydew2", "light_cyan1", "red1",
  "deep_pink2", "deep_pink1", "magenta1", "orange_red1", "indian_red1", "hot_pink", "dark_orange",
  "salmon1", "light_coral", "pale_violet_red1", "orchid2", "orchid1", "orange1", "sandy_brown",
  "light_salmon1", "light_pink1", "pink1", "plum1", "gold1", "light_goldenrod1", "navajo_white1",
  "misty_rose1", "thistle1", "yellow1", "khaki1", "wheat1", "cornsilk1", "grey100", "gray100",
  "grey3", "gray3", "grey7", "gray7", "grey11", "gray11", "grey15", "gray15", "grey19", "gray19",
  "grey23", "gray23", "grey27", "gray27", "grey30", "gray30", "grey35", "gray35", "grey39",
  "gray39", "grey42", "gray42", "grey46", "gray46", "grey50", "gray50", "grey54", "gray54",
  "grey58", "gray58", "grey62", "gray62", "grey66", "gray66", "grey70", "gray70", "grey74",
  "gray74", "grey78", "gray78", "grey82", "gray82", "grey85", "gray85", "grey89", "gray89",
  "grey93", "gray93"]

/-- What stands between the brackets of a word that is a certain name with brackets behind it. -/
def argument? (name : String) (word : List Char) : Option (List Char) :=
  let inside := word.drop (name.length + 1)
  if (name.toList ++ ['(']).isPrefixOf word && inside.getLast? == some ')' then some inside.dropLast
  else none

def isHexColor : List Char → Bool
  | '#' :: digits => digits.length == 6 && digits.all fun c => c.isDigit || (97 ≤ c.toNat && c.toNat ≤ 102)
  | _ => false

/-- Whether some digits are the number of a color. -/
def isColorNumber (digits : List Char) : Bool :=
  digits.length ≤ 3 && digits.all Char.isDigit && (readDigits? digits).any (· ≤ 255)

def readPart (digits : List Char) : Except Mishap Nat :=
  if maxIntegerDigits < digits.length then .error (.longInteger (longIntegerMessage digits.length))
  else match readDigits? digits with
    | some n => .ok n
    | none => .error (.notAnInteger (String.ofList digits))

/-- Whether a text holds the three parts of a color. -/
def isTriplet (text : List Char) : Except Mishap Bool :=
  if text.isEmpty || !text.all fun c => isDecimalDigit c || c == ',' then .ok false
  else match split ',' text with
    | [red, green, blue] => do
      let parts ← [red, green, blue].mapM readPart
      pure (parts.all (· ≤ 255))
    | _ => .ok false

/-- Whether a word is a color: a name, `#` with six hexadecimal digits, a number or three parts. -/
def isColor (word : String) : Except Mishap Bool :=
  match argument? "rgb" word.toList with
  | some parts => isTriplet parts
  | none => .ok (colorNames.contains word || isHexColor word.toList ||
      (argument? "color" word.toList).any isColorNumber)

/-- The description of a style: attributes switched on or off, colors and a link. -/
structure Style where
  attributes : List (String × Bool)
  color : Option String
  background : Option String
  link : Option String

def Style.text (s : Style) : String :=
  let attributes := attributeNames.filterMap fun name =>
    (s.attributes.lookup name).map fun on => if on then name else "not " ++ name
  let words := attributes ++ s.color.toList ++ (s.background.map ("on " ++ ·)).toList ++
    (s.link.map ("link " ++ ·)).toList
  if words.isEmpty then "none" else " ".intercalate words

def lower (s : String) : String := String.ofList (s.toList.map lowerChar)

/-- Adds what some words say to a style, if they describe one. -/
def Style.read (s : Style) : List String → Except Mishap (Option Style)
  | [] => .ok (some s)
  | word :: words =>
    match lower word, words with
    | "on", color :: words => do
      if ← isColor (lower color) then Style.read { s with background := some (lower color) } words
      else pure none
    | "not", name :: words =>
      match attribute? name with
      | some name => Style.read { s with attributes := (name, false) :: s.attributes } words
      | none => .ok none
    | "link", url :: words => Style.read { s with link := some url } words
    | "on", [] | "not", [] | "link", [] => .ok none
    | word, words =>
      match attribute? word with
      | some name => Style.read { s with attributes := (name, true) :: s.attributes } words
      | none => do
        if ← isColor word then Style.read { s with color := some word } words else pure none

def splitWords (s : List Char) : List String :=
  let (word, words) := s.foldr (fun c ((word, words) : List Char × List String) =>
    if isBlank c then ([], if word.isEmpty then words else String.ofList word :: words)
    else (c :: word, words)) ([], [])
  if word.isEmpty then words else String.ofList word :: words

def readStyle (text : List Char) : Except Mishap (Option Style) :=
  let plain : Style := ⟨[], none, none, none⟩
  let words := splitWords text
  if words == ["none"] then .ok (some plain) else plain.read words

def normalName (name : List Char) : Except Mishap (List Char) := do
  match ← readStyle name with
  | some style => pure style.text.toList
  | none => pure ((trimBlanks name).map lowerChar)

end Preflight.Report

import Preflight.CommandLine.Usage
import Preflight.Text.Digit
import Preflight.Text.Split

/-!
# The words of a command line

A word is an option, or something that looks like one but is none, if it starts with a dash; all words
behind a lone double dash are plain. A long option may be cut short as long as one option is left that
it can mean. Negative numbers and words with a space are plain unless they name an option.
-/

namespace Preflight.CommandLine

open Text

/-- What a word of a command line is: an option named by a letter, with the characters behind it, or
by a longer name, with the value behind an equals sign, or nothing of that kind. -/
inductive Word (κ : Type)
  | plain
  | separator
  | unknown
  | letter (spec : OptionSpec κ) (behind : List Char)
  | long (spec : OptionSpec κ) (value : Option String)

/-- A word up to its first equals sign, and the value behind that. -/
def splitAtEquals (word : String) : String × Option String :=
  match splitString '=' word with
  | name :: value :: values => (name, some ("=".intercalate (value :: values)))
  | _ => (word, none)

def letterName (c : Char) : String := String.ofList ['-', c]

/-- Whether a word is a dash before digits, which may have a point among or before them. A line break
may follow. -/
def isNegativeNumber (word : String) : Bool :=
  let digits (s : List Char) : Bool := !s.isEmpty && s.all isDecimalDigit
  let number (s : List Char) : Bool := digits s || match s.dropWhile isDecimalDigit with
    | '.' :: rest => digits rest
    | _ => false
  match word.toList with
  | '-' :: s => number s || (s.getLast? == some '\n' && number s.dropLast)
  | _ => false

def Word.nameless {κ : Type} (word : String) : Word κ :=
  if isNegativeNumber word || word.toList.contains ' ' then .plain else .unknown

/-- What a word is that begins with a double dash: an exact name comes before names it may begin. -/
def Word.readLong {κ : Type} (table : OptionTable κ) (word : String) : Except UsageFault (Word κ) :=
  let (name, value) := splitAtEquals word
  match table.find? word, table.find? name with
  | some spec, _ => .ok (.long spec none)
  | none, some spec => .ok (.long spec value)
  | none, none =>
    match table.names.filter fun entry => name.toList.isPrefixOf entry.1.toList with
    | [] => .ok (nameless word)
    | [(_, spec)] => .ok (.long spec value)
    | several => .error (.ambiguous word (several.map (·.1)))

def Word.read {κ : Type} (table : OptionTable κ) (word : String) : Except UsageFault (Word κ) :=
  match word.toList with
  | '-' :: '-' :: _ => readLong table word
  | '-' :: c :: behind =>
    match table.find? (letterName c) with
    | some spec => .ok (.letter spec behind)
    | none => .ok (nameless word)
  | _ => .ok .plain

def readWords {κ : Type} (table : OptionTable κ) :
    List String → Except UsageFault (List (String × Word κ))
  | [] => .ok []
  | word :: words =>
    if word == "--" then .ok ((word, .separator) :: words.map (·, .plain))
    else do
      let first ← Word.read table word
      let others ← readWords table words
      pure ((word, first) :: others)

end Preflight.CommandLine

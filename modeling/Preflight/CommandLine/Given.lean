import Preflight.CommandLine.Word

/-!
# The options given

Letters that take no value may stand together behind one dash, the last of them with a value of its
own; letters that name no option are left over. A value is attached to its option or stands in the
next word.
-/

namespace Preflight.CommandLine

/-- What stands in a command line: an option, with its value, a word that belongs to none, or a fault,
which ends it. -/
inductive Given (κ : Type)
  | option (spec : OptionSpec κ) (value : Option String)
  | leftover (word : String)
  | fault (fault : UsageFault)

/-- The options in one word, and what it ends in: an option with the value attached to it, or letters
that name none. -/
structure Bundle (κ : Type) where
  flags : List (OptionSpec κ)
  last : OptionSpec κ × Option String ⊕ String

def Bundle.ofValue {κ : Type} (spec : OptionSpec κ) (value : String) : Except UsageFault (Bundle κ) :=
  if spec.takesValue then .ok ⟨[], .inl (spec, some value)⟩
  else .error (.unusedValue spec.title value)

/-- An option named by a letter, with the characters behind it. -/
def Bundle.ofLetter {κ : Type} (table : OptionTable κ) (spec : OptionSpec κ) :
    List Char → Except UsageFault (Bundle κ)
  | [] => .ok ⟨[], .inl (spec, none)⟩
  | '=' :: value => ofValue spec (String.ofList value)
  | c :: behind =>
    if spec.takesValue || c == '-' then ofValue spec (String.ofList (c :: behind))
    else match table.find? (letterName c) with
      | none => .ok ⟨[spec], .inr (String.ofList ('-' :: c :: behind))⟩
      | some next => (ofLetter table next behind).map fun b => { b with flags := spec :: b.flags }

/-- The options that a word stands for, if it stands for any. -/
def Bundle.ofWord? {κ : Type} (table : OptionTable κ) : Word κ → Option (Except UsageFault (Bundle κ))
  | .letter spec behind => some (ofLetter table spec behind)
  | .long spec (some value) => some (ofValue spec value)
  | .long spec none => some (.ok ⟨[], .inl (spec, none)⟩)
  | _ => none

/-- What stands in a command line, in order. A word whose last option lacks its value stands for
nothing else. -/
def givens {κ : Type} (table : OptionTable κ) : List (String × Word κ) → List (Given κ)
  | [] => []
  | (text, word) :: words =>
    match Bundle.ofWord? table word with
    | none => .leftover text :: givens table words
    | some (.error fault) => [.fault fault]
    | some (.ok ⟨flags, last⟩) =>
      let before := flags.map (.option · none)
      match last, words with
      | .inr letters, words => before ++ .leftover letters :: givens table words
      | .inl (spec, some value), words => before ++ .option spec (some value) :: givens table words
      | .inl (spec, none), words =>
        if !spec.takesValue then before ++ .option spec none :: givens table words
        else match words with
          | (value, .plain) :: words => before ++ .option spec (some value) :: givens table words
          | _ => [.fault (.missingValue spec.title)]

end Preflight.CommandLine

import Preflight.Text.Quoted

/-!
# Usage

The options of a command line, what help says of them, and what can be wrong with the way they are
used.
-/

namespace Preflight.CommandLine

open Text

/-- An option: what it stands for, its names as they are listed, and whether it takes a value. -/
structure OptionSpec (κ : Type) where
  key : κ
  names : List String
  takesValue : Bool

def OptionSpec.title {κ : Type} (spec : OptionSpec κ) : String := "/".intercalate spec.names

abbrev OptionTable (κ : Type) := List (OptionSpec κ)

def OptionTable.names {κ : Type} (table : OptionTable κ) : List (String × OptionSpec κ) :=
  List.flatMap (fun spec => spec.names.map (·, spec)) table

def OptionTable.find? {κ : Type} (table : OptionTable κ) (name : String) : Option (OptionSpec κ) :=
  table.names.lookup name

/-- What is wrong with the arguments of a command. -/
inductive UsageFault
  | missingCommand
  | badCommand (given : String) (known : List String)
  | unrecognized (arguments : List String)
  | ambiguous (given : String) (names : List String)
  | missingValue (option : String)
  | unusedValue (option value : String)
  | notAnInteger (option value : String)
  | badChoice (option value : String) (choices : List String)
  deriving DecidableEq, Repr

def choiceText (value : String) (choices : List String) : String :=
  s!"invalid choice: {quoted value} (choose from " ++ ", ".intercalate (choices.map quoted) ++ ")"

def UsageFault.message : UsageFault → String
  | .missingCommand => "the following arguments are required: command"
  | .badCommand given known => "argument command: " ++ choiceText given known
  | .unrecognized arguments => "unrecognized arguments: " ++ " ".intercalate arguments
  | .ambiguous given names => s!"ambiguous option: {given} could match " ++ ", ".intercalate names
  | .missingValue option => s!"argument {option}: expected one argument"
  | .unusedValue option value => s!"argument {option}: ignored explicit argument {quoted value}"
  | .notAnInteger option value => s!"argument {option}: invalid int value: {quoted value}"
  | .badChoice option value choices => s!"argument {option}: " ++ choiceText value choices

end Preflight.CommandLine

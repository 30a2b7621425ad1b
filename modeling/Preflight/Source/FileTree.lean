import Preflight.Mishap
import Preflight.Path
import Preflight.Table

/-!
# Files

A tree of files below a working directory, reading a file from it by its path, and the place that a path
leads to. Reading walks the path name by name, so the first name that cannot be passed decides the fault.
-/

namespace Preflight.Source

open Text

inductive FileFault
  | notFound
  | isDirectory
  | notDirectory
  | nameTooLong
  | other (message : String)
  deriving DecidableEq, Repr

def FileFault.message : FileFault → String
  | .notFound => "No such file or directory"
  | .isDirectory => "Is a directory"
  | .notDirectory => "Not a directory"
  | .nameTooLong => "File name too long"
  | .other message => message

def slash : CodePoint := .char '/'

def placeText (names : List SystemText) : SystemText := slash :: joinWith slash names

inductive Entry
  | file (content : List UInt8)
  | directory
  deriving DecidableEq, Repr

/-- A working directory, as names from the root, and the entries known by their absolute names. The
directories above an entry exist without being listed. -/
structure FileTree where
  directory : List String
  entries : List (List String × Entry)

namespace FileTree

def entry? (tree : FileTree) (names : List String) : Option Entry :=
  match tree.entries.lookup names with
  | some e => some e
  | none =>
    if names.isPrefixOf tree.directory || tree.entries.any (names.isPrefixOf ·.1) then
      some .directory
    else none

/-- The longest name and the longest path a file may have, in bytes. -/
def maxName : Nat := 255

def maxPath : Nat := 4096

/-- The place reached by walking names from a place that exists. -/
def walk (tree : FileTree) : List String → List String → Except FileFault (List String)
  | place, [] => .ok place
  | place, name :: names =>
    match tree.entry? place with
    | some (.file _) => .error .notDirectory
    | none => .error .notFound
    | some .directory =>
      if name == ".." then walk tree place.dropLast names
      else if maxName < (utf8 name.toList).length then .error .nameTooLong
      else match tree.entry? (place ++ [name]) with
        | none => .error .notFound
        | some _ => walk tree (place ++ [name]) names

def read (tree : FileTree) (path : Path) : Except FileFault (List UInt8) := do
  if maxPath ≤ (utf8 path.text.toList).length then .error .nameTooLong
  else
    let place ← walk tree (if path.isAbsolute then [] else tree.directory) path.names
    match tree.entry? place with
    | some (.file content) => pure content
    | some .directory => .error .isDirectory
    | none => .error .notFound

/-- Where names lead to from a place, whether or not anything stands there. Each step up takes a name
away; the system has to take every other name. -/
def follow : List SystemText → List SystemText → Except Mishap (List SystemText)
  | place, [] => .ok place
  | place, name :: names =>
    if name = [.char '.', .char '.'] then follow place.dropLast names
    else match systemBytes (placeText (place ++ [name])) with
      | .ok _ => follow (place ++ [name]) names
      | .error signs => .error (.unwritable signs)

/-- The place that a path leads to, as names from the root. -/
def place (tree : FileTree) (path : SystemText) : Except Mishap (List SystemText) :=
  let names := (split slash path).filter fun name => name != [] && name != [.char '.']
  follow []
    (if path.head? = some slash then names else tree.directory.map (systemText ·.toList) ++ names)

def write (tree : FileTree) (path : Path) (e : Entry) : FileTree :=
  let names := path.resolve tree.directory
  { tree with entries := (names, e) :: tree.entries.filter (·.1 != names) }

def remove (tree : FileTree) (path : Path) : FileTree :=
  let names := path.resolve tree.directory
  { tree with entries := tree.entries.filter (·.1 != names) }

end FileTree

end Preflight.Source

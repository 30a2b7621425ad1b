import Preflight.Text.Percent
import Preflight.Text.Split

/-!
# File paths

A path is a root (none, `/` or `//`) and the names on the way. Empty names and single dots are
dropped on reading; two dots stay until the path is resolved against a directory.
-/

namespace Preflight

open Text

structure Path where
  root : String
  names : List String
  deriving DecidableEq, Repr

namespace Path

/-- Reads a path. Exactly two leading slashes are kept, more become one. -/
def ofString (s : String) : Path :=
  let root := match s.toList with
    | '/' :: '/' :: '/' :: _ => "/"
    | '/' :: '/' :: _ => "//"
    | '/' :: _ => "/"
    | _ => ""
  ⟨root, (splitString '/' s).filter fun name => name != "" && name != "."⟩

def text (p : Path) : String :=
  if p.root == "" && p.names.isEmpty then "." else p.root ++ "/".intercalate p.names

def isAbsolute (p : Path) : Bool := p.root != ""

/-- The names on the way from the root, `directory` being where a relative path starts, after every
step up was taken. -/
def resolve (directory : List String) (p : Path) : List String :=
  let names := if p.isAbsolute then p.names else directory ++ p.names
  names.foldl (fun names name => if name == ".." then names.dropLast else names ++ [name]) []

def holdsNull (s : String) : Bool := s.toList.contains '\x00'

/-- The URL of a file, given the bytes of its path from the root. -/
def fileUrl (bytes : List UInt8) : String := "file://" ++ String.ofList (percentEncode bytes)

end Path

end Preflight

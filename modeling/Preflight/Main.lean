import Preflight.CommandLine.Session

/-!
# The program

Gives a session what it asks of the world: the files it reads and the variables that its placeholders
name. A session that asks for a file is started again once the file is there. Nothing can be fetched
from a network, so every host is unreachable.
-/

namespace Preflight.CommandLine

open Gateway Report Source Text

abbrev KnownFiles := List (Path × Except FileFault (List UInt8))

def readFile (path : Path) : IO (Except FileFault (List UInt8)) := do
  try
    let content ← IO.FS.readBinFile path.text
    pure (.ok content.toList)
  catch
    | .noFileOrDirectory .. => pure (.error .notFound)
    | .inappropriateType .. => pure (.error .isDirectory)
    | e => pure (.error (.other (toString e)))

/-- The values of the variables that the placeholders of known files name. -/
def readEnvironment (known : KnownFiles) : IO Environment := do
  let names := known.flatMap fun (_, content) =>
    match content.toOption.bind fun bytes => (decodeUtf8 bytes).toOption with
    | some text => variableNames text
    | none => []
  names.filterMapM fun name => do pure ((← IO.getEnv name).map fun value => (name, systemText value.toList))

/-- The session for some arguments, files being read as it asks for them. -/
partial def explore (directory : List String) (arguments : List String) (known : KnownFiles) :
    IO Session := do
  let read (path : Path) := (known.lookup path).getD (.error .notFound)
  let world : World := ⟨FileTree.place ⟨directory, []⟩, read, fun _ => .failed "unreachable"⟩
  let session := Session.ofArguments plainScreen world (← readEnvironment known) arguments
  match session.reads.find? fun path => (known.lookup path).isNone with
  | some path => explore directory arguments ((path, ← readFile path) :: known)
  | none => pure session

end Preflight.CommandLine

def main (arguments : List String) : IO UInt32 := do
  let directory := (Preflight.Path.ofString (← IO.currentDir).toString).names
  let session ← Preflight.CommandLine.explore directory arguments []
  IO.print session.output
  IO.eprint session.complaint
  pure (UInt32.ofNat session.status)

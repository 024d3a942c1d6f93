import ScriptManual.Host.OsError
import ScriptManual.Log.Event

/-!
This module contains what the program needs of the system that it runs on.
-/

namespace ScriptManual

class Host (m : Type → Type) where
  resolve : Path → m (Except Path.Unresolvable Path)
  readFile : Path → m (Except OsError (List UInt8))
  /-- Write a file, in the place of one that is there. What is to be written may be no text. -/
  writeFile : Path → Except WideText.EncodeFault Text → m (Except OsError Unit)
  appendFile : Path → Text → m (Except OsError Unit)
  makeDirectory : Path → m (Except OsError Unit)
  isDirectory : Path → m Bool
  putOut : Text → m Unit
  putError : Text → m Unit
  reportLoss : m Unit
  clock : m Log.Clock

namespace Host

variable {m : Type → Type} [Monad m] [Host m]

def ensureDirectory (path : Path) : m (Except OsError Unit) := do
  match ← makeDirectory path with
  | .ok () => return .ok ()
  | .error e =>
    if e.kind = .notFound then
      return .error e
    else if ← isDirectory path then
      return .ok ()
    else
      return .error e

/--
The most directories that are created above a directory in one go. The limit is assumed.
-/
def assumedMaxMissingDirectories : Nat := 987

/--
Create the directory at the end of reversed components, and at most `limit` of those above it if they
are not there. A directory that is there is fine.
-/
def makeDirectoriesAt (root : Path.Root) (limit : Nat) :
    (reversed : List WideText) → m (Except OsError Unit)
  | [] => return .ok ()
  | name :: above => do
    let path : Path := ⟨root, (name :: above).reverse⟩
    match ← ensureDirectory path with
    | .ok () => return .ok ()
    | .error e =>
      if e.kind = .notFound then
        match limit with
        | 0 => return .error ⟨.tooDeep, path⟩
        | limit + 1 =>
          match ← makeDirectoriesAt root limit above with
          | .ok () => ensureDirectory path
          | .error e => return .error e
      else
        return .error e

def makeDirectories (p : Path) : m (Except OsError Unit) :=
  makeDirectoriesAt p.root assumedMaxMissingDirectories p.components.reverse

end Host

end ScriptManual

import ScriptManual.Text.Quoted

/-!
This module contains paths of files: where a path starts, and the names of its components.
-/

namespace ScriptManual

inductive Path.Root where
  | relative
  | slash
  | doubleSlash
  deriving Repr, DecidableEq

/--
A path. Its components are neither empty nor a single dot, and have no slash in them.
-/
structure Path where
  root : Path.Root
  components : List WideText
  deriving Repr, DecidableEq

namespace Path

abbrev dot : WideText := [.char '.']

abbrev dots : WideText := [.char '.', .char '.']

def componentsOf (t : WideText) : List WideText :=
  (Text.split (.char '/') t).filter fun c => c != [] && c != dot

/--
Read a path. Empty components and single dots do not count, and three slashes in front are one.
-/
def ofText (t : WideText) : Path :=
  let root : Root :=
    match t with
    | .char '/' :: .char '/' :: .char '/' :: _ => .slash
    | .char '/' :: .char '/' :: _ => .doubleSlash
    | .char '/' :: _ => .slash
    | _ => .relative
  ⟨root, componentsOf t⟩

def Root.toText : Root → WideText
  | .relative => []
  | .slash => [.char '/']
  | .doubleSlash => [.char '/', .char '/']

def toText (p : Path) : WideText :=
  match p.root, p.components with
  | .relative, [] => dot
  | root, components => root.toText ++ Text.join [.char '/'] components

def isAbsolute (p : Path) : Bool :=
  p.root != .relative

def append (p q : Path) : Path :=
  if q.isAbsolute then q else ⟨p.root, p.components ++ q.components⟩

instance : Append Path := ⟨append⟩

def name (p : Path) : WideText :=
  p.components.getLast?.getD []

def parent (p : Path) : Path :=
  ⟨p.root, p.components.dropLast⟩

/--
Follow components from `visited`, which holds the components so far, newest first. Two dots lead to
the parent, and the root is its own parent.
-/
def follow (visited : List WideText) (components : List WideText) : List WideText :=
  components.foldl (fun visited c => if c = dots then visited.tail else c :: visited) visited

def absolute (directory p : Path) : Path :=
  let q := directory ++ p
  ⟨q.root, (follow [] q.components).reverse⟩

def hasNul (p : Path) : Bool :=
  p.components.any fun c => c.contains (.char '\x00')

inductive Unresolvable where
  | nulCharacter
  | notEncodable (fault : WideText.EncodeFault)
  | linkLoop (p : Path)
  deriving Repr, DecidableEq

def Unresolvable.message : Unresolvable → Text
  | .nulCharacter => "embedded null byte".toList
  | .notEncodable fault => fault.message
  | .linkLoop p => "Symlink loop from ".toList ++ p.toText.quoted

def nameFault? (above : List WideText) (name : WideText) : Option Unresolvable :=
  match (Path.mk .slash (above ++ [name])).toText.nameFault? with
  | some fault => some (.notEncodable fault)
  | none => if name.contains (.char '\x00') then some .nulCharacter else none

end Path

end ScriptManual

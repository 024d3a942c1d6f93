import ScriptManual.Assoc.Basic
import ScriptManual.Host.Basic
import ScriptManual.Text.Utf8

/-!
This module contains a host whose files are a value: a tree of directories, files and links that
operations change and answer from. A walk through the tree goes from one component of a path to the
next, and what is wrong first is what it fails with.
-/

namespace ScriptManual

open ScriptManual.Path (Place)

inductive FileTree where
  | file (bytes : List UInt8)
  | link (target : WideText)
  | directory (entries : List (WideText × FileTree))
  deriving Inhabited

namespace FileTree

def empty : FileTree := .directory []

def get? : FileTree → Place → Option FileTree
  | t, [] => some t
  | .file _, _ :: _ => none
  | .link _, _ :: _ => none
  | .directory entries, name :: names => (entries.lookup name).bind fun t => t.get? names

/--
Put a tree at a place. Directories on the way that are not there are created, and nothing can be put
below a file or a link.
-/
def put : FileTree → Place → (new : FileTree) → FileTree
  | _, [], new => new
  | .file bytes, _ :: _, _ => .file bytes
  | .link target, _ :: _, _ => .link target
  | .directory entries, name :: names, new =>
    .directory (Assoc.set name (((entries.lookup name).getD empty).put names new) entries)

def target? : FileTree → Option WideText
  | .link target => some target
  | _ => none

def link? (t : FileTree) (place : Place) : Option WideText :=
  (t.get? place).bind target?

def maxNameBytes : Nat := 255

def maxLinks : Nat := 40

def enter (t : FileTree) (place : Place) (name : WideText) : Except OsError.Kind Unit :=
  match t.get? place with
  | none => .error .notFound
  | some (.file _) | some (.link _) => .error .notDirectory
  | some (.directory _) =>
    match Path.nameFault? place name with
    | some e => .error (.unresolvable e)
    | none => if maxNameBytes < name.byteCount then .error .nameTooLong else .ok ()

def walkFrom (t : FileTree) (follow : Place → List WideText → Except OsError.Kind Place)
    (place : Place) : (names : List WideText) → Except OsError.Kind Place
  | [] => .ok place
  | name :: names => do
    t.enter place name
    if name = Path.dots then
      walkFrom t follow place.dropLast names
    else
      match t.link? (place ++ [name]) with
      | none => walkFrom t follow (place ++ [name]) names
      | some target => follow (Path.linkStart place target) (Path.componentsOf target ++ names)

def walk (t : FileTree) : (links : Nat) → Place → List WideText → Except OsError.Kind Place
  | 0 => t.walkFrom fun _ _ => .error .linkLoop
  | links + 1 => t.walkFrom (t.walk links)

@[simp]
theorem get?_nil (t : FileTree) : t.get? [] = some t := by
  cases t <;> rfl

@[simp]
theorem put_nil (t new : FileTree) : t.put [] new = new := by
  cases t <;> rfl

end FileTree

structure World where
  tree : FileTree
  directory : Path
  out : Text
  error : Text
  /-- What the error output says about a record that could not be logged. -/
  lossReport : Text
  clock : Log.Clock

namespace World

def maxPathBytes : Nat := 4095

def check (p : Path) : Except OsError.Kind Unit :=
  match p.toText.nameFault? with
  | some fault => .error (.unresolvable (.notEncodable fault))
  | none =>
    if p.hasNul then .error (.unresolvable .nulCharacter)
    else if maxPathBytes < p.toText.byteCount then .error .nameTooLong
    else .ok ()

def locate (w : World) (p : Path) : Except OsError.Kind Place := do
  check p
  w.tree.walk FileTree.maxLinks [] (w.directory ++ p).components

def read (w : World) (p : Path) : Except OsError.Kind (List UInt8) := do
  match w.tree.get? (← w.locate p) with
  | some (.file bytes) => return bytes
  | some (.directory _) => throw .isDirectory
  | some (.link _) | none => throw .notFound

def update (f : List UInt8 → Except OsError.Kind (List UInt8)) (w : World) (p : Path) :
    Except OsError.Kind FileTree := do
  let place ← w.locate p
  match w.tree.get? place with
  | some (.file bytes) => return w.tree.put place (.file (← f bytes))
  | some (.directory _) => throw .isDirectory
  | some (.link _) => throw .linkLoop
  | none => return w.tree.put place (.file (← f []))

/--
Create a directory whose parent is there. The last component is not followed if it is a link.
-/
def makeDirectory (w : World) (p : Path) : Except OsError.Kind FileTree := do
  check p
  let names := (w.directory ++ p).components
  match names.getLast? with
  | none => throw .exists
  | some name =>
    let above ← w.tree.walk FileTree.maxLinks [] names.dropLast
    w.tree.enter above name
    if name = Path.dots then
      throw .exists
    match w.tree.get? (above ++ [name]) with
    | some _ => throw .exists
    | none => return w.tree.put (above ++ [name]) .empty

abbrev WorldM := StateM World

def change (p : Path) (f : World → Path → Except OsError.Kind FileTree) :
    WorldM (Except OsError Unit) := do
  let w ← get
  match f w p with
  | .ok tree => set { w with tree }; return .ok ()
  | .error kind => return .error ⟨kind, p⟩

instance : Host WorldM where
  resolve p := do
    let w ← get
    return Path.resolve? w.tree.link? w.directory p
  readFile p := do return ((← get).read p).mapError fun kind => ⟨kind, p⟩
  writeFile p t := change p (update fun _ => (t.map Text.Utf8.encode).mapError .notEncodable)
  appendFile p t := change p (update fun bytes => .ok (bytes ++ Text.Utf8.encode t))
  makeDirectory p := change p makeDirectory
  isDirectory p := do
    let w ← get
    return (w.locate p).toOption.bind w.tree.get? matches some (.directory _)
  putOut t := modify fun w => { w with out := w.out ++ t }
  putError t := modify fun w => { w with error := w.error ++ t }
  reportLoss := modify fun w => { w with error := w.error ++ w.lossReport }
  clock := return (← get).clock

end World

end ScriptManual

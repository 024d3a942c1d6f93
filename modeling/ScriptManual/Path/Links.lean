import ScriptManual.Path.Basic

/-!
This module contains where paths lead. A link among the components of a path leads to another place,
from which the path goes on.
-/

namespace ScriptManual

namespace Path

/--
The names on the way from the root, without two dots.
-/
abbrev Place := List WideText

def linkStart (directory : Place) (target : WideText) : Place :=
  if (ofText target).isAbsolute then [] else directory

section

variable (link? : Place → Option WideText)

/--
Go on from a place along some names. A link is gone along first, with `follow`. A place that is not
there is no link.
-/
def placeFrom (follow : Place → List WideText → Except Unresolvable Place) (place : Place) :
    (names : List WideText) → Except Unresolvable Place
  | [] => .ok place
  | name :: names =>
    if name = dots then
      placeFrom follow place.dropLast names
    else
      match nameFault? place name, link? (place ++ [name]) with
      | some e, _ => .error e
      | none, none => placeFrom follow (place ++ [name]) names
      | none, some target => do
        placeFrom follow (← follow (linkStart place target) (componentsOf target)) names

def placeWithin (p : Path) : (depth : Nat) → Place → List WideText → Except Unresolvable Place
  | 0 => placeFrom link? fun _ _ => .error (.linkLoop p)
  | depth + 1 => placeFrom link? (placeWithin p depth)

/--
How many links lead into one another at most. The limit is assumed: links beyond it are taken for a
loop.
-/
def assumedMaxLinkDepth : Nat := 980

/--
The path of the file that a path leads to from `directory`, if it can lead to one. It starts with one
slash.
-/
def resolve? (directory p : Path) : Except Unresolvable Path :=
  (placeWithin link? p assumedMaxLinkDepth [] (directory ++ p).components).map fun place =>
    ⟨.slash, place⟩

end

def noLinks : Place → Option WideText := fun _ => none

end Path

end ScriptManual

import ScriptManual.Path.Links
import ScriptManual.Text.Blank
import ScriptManual.Text.Composition

/-!
This module contains the way from what a user writes for a path to the path that is meant. A tilde
stands for the home of a user, and an at sign for the directory of the program.
-/

namespace ScriptManual

namespace Path

inductive MapError where
  | relativeProgramRoot
  | blank
  | nulCharacter
  | unknownHome (raw : WideText)
  | noDirectory
  | unresolvable (e : Unresolvable)
  deriving Repr, DecidableEq

def MapError.message : MapError → WideText
  | .relativeProgramRoot => "app_root_abs must be an absolute path.".toList
  | .blank => "Path is empty.".toList
  | .nulCharacter => "Path contains NUL (\\0) character.".toList
  | .unknownHome raw => WideText.ofText "Failed to expand user home in path: ".toList ++ raw
  | .noDirectory =>
    ("Relative path requires an explicit base directory. "
      ++ "Use ~ (home), @ (app root), or an absolute path.").toList
  | .unresolvable e => e.message

structure Surroundings where
  programRoot : Path
  workingDirectory : Path
  home : WideText
  homeOf : WideText → Option WideText

/--
Whether a character stands between components. A backslash does so behind a tilde or an at sign.
-/
def isSeparator (p : CodePoint) : Bool :=
  p == .char '/' || p == .char '\\'

def unifySeparators : WideText → WideText
  | [] => []
  | p :: ps =>
    let rest := unifySeparators ps
    if isSeparator p then
      if ps.head?.any isSeparator then rest else .char '/' :: rest
    else
      p :: rest

/--
The home that a component stands for which starts with a tilde. No slashes are left at its end, and a
home of slashes only is the root.
-/
def homeText? (s : Surroundings) (component : WideText) : Option WideText :=
  let home? :=
    match component with
    | [.char '~'] => some s.home
    | _ => s.homeOf (component.drop 1)
  home?.bind fun home =>
    let home := Text.trimEnd (· == .char '/') home
    if home.head? == some (.char '~') then none else some (if home.isEmpty then [.char '/'] else home)

def expandHome? (s : Surroundings) (p : Path) : Option Path :=
  match p.components with
  | [] => none
  | first :: rest => (homeText? s first).map fun home => ofText home ++ ⟨.relative, rest⟩

def userFault? (p : Path) : Option WideText.EncodeFault :=
  p.components.head?.bind fun first => WideText.nameFault? (first.drop 1)

def pieces (t : WideText) : List WideText :=
  (Text.split (.char '/') (unifySeparators t)).filter fun piece => !piece.isEmpty

def belowProgramRoot (s : Surroundings) (rest : WideText) : Path :=
  s.programRoot ++ ⟨.relative, (pieces rest).filter (· != dot)⟩

/--
The path that is written, which need not tell where it starts. Its text is composed already.
-/
def written? (s : Surroundings) (raw : WideText) (t : WideText) : Except MapError Path :=
  match t with
  | .char '~' :: _ =>
    let p := ofText (unifySeparators t)
    match userFault? p, expandHome? s p with
    | some fault, _ => .error (.unresolvable (.notEncodable fault))
    | none, some p => .ok p
    | none, none => .error (.unknownHome raw)
  | .char '@' :: rest => .ok (belowProgramRoot s rest)
  | _ => .ok (ofText t)

def meant (s : Surroundings) (base? : Option Path) (raw : WideText) : Except MapError Path := do
  if !s.programRoot.isAbsolute then
    throw .relativeProgramRoot
  let t := raw.toComposed
  if t.isAllBlank then
    throw .blank
  if .char '\x00' ∈ t then
    throw .nulCharacter
  let p ← written? s raw t
  if p.isAbsolute then
    return p
  else
    match base? with
    | some base => return base ++ p
    | none => throw .noDirectory

/--
Read what a user writes for a path, where there are no links.
-/
def map (s : Surroundings) (base? : Option Path) (raw : WideText) : Except MapError Path := do
  (resolve? noLinks s.workingDirectory (← meant s base? raw)).mapError .unresolvable

end Path

end ScriptManual

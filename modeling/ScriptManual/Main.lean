import ScriptManual.Cli.Run
import ScriptManual.Host.Accounts
import ScriptManual.Log.Moment
import ScriptManual.Main.Validation
import Std.Time

/-!
This module contains the program: it runs on the files, streams and clock of the system.
-/

namespace ScriptManual

namespace Main

def numberOf (code : UInt32) : Nat :=
  if code < 0x80000000 then code.toNat else (-code).toNat

def kindOf (e : IO.Error) : OsError.Kind :=
  match e with
  | .alreadyExists _ code d | .noFileOrDirectory _ code d | .invalidArgument _ code d
  | .permissionDenied _ code d | .resourceExhausted _ code d | .inappropriateType _ code d
  | .noSuchThing _ code d | .interrupted _ code d =>
    .ofNumber (numberOf code) d.toList
  | .otherError code d | .resourceBusy code d | .resourceVanished code d
  | .unsupportedOperation code d | .hardwareFault code d | .unsatisfiedConstraints code d
  | .illegalOperation code d | .protocolError code d | .timeExpired code d =>
    .ofNumber (numberOf code) d.toList
  | .unexpectedEof | .userError _ => .ofNumber 5 e.toString.toList

def attempt {α : Type} (path : Path) (operation : String → IO α) : IO (Except OsError α) := do
  match path.toText.toText with
  | .error fault => return .error ⟨.unresolvable (.notEncodable fault), path⟩
  | .ok name =>
    if path.hasNul then
      return .error ⟨.unresolvable .nulCharacter, path⟩
    try
      return .ok (← operation (String.ofList name))
    catch e =>
      return .error ⟨kindOf e, path⟩

/--
The place that reversed names lead to from the root. Names behind one that is not there lead down from
where that one would be.
-/
def placeOf (p : Path) : (reversed : List WideText) → IO (Except Path.Unresolvable Path.Place)
  | [] => return .ok []
  | name :: above => do
    let path : Path := ⟨.slash, (name :: above).reverse⟩
    match ← attempt path fun t => return (← IO.FS.realPath t).toString with
    | .ok t => return .ok (Path.ofText (WideText.ofText t.toList)).components
    | .error ⟨.linkLoop, _⟩ => return .error (.linkLoop p)
    | .error ⟨.unresolvable e, _⟩ => return .error e
    | .error _ =>
      let place ← placeOf p above
      return place.map fun place => if name = Path.dots then place.dropLast else place ++ [name]

def workingDirectory : IO Path :=
  return Path.ofText (WideText.ofText (← IO.currentDir).toString.toList)

def momentOf (t : Std.Time.DateTime) : Log.Moment :=
  let d := t.toPlainDateTime
  {
    year := d.date.year.toInt.toNat
    month := d.date.month.val.toNat
    day := d.date.day.val.toNat
    hour := d.time.hour.val.toNat
    minute := d.time.minute.val.toNat
    second := d.time.second.val.toNat
    microsecond := d.time.nanosecond.val.toNat / 1000
    offset := t.offset.second.val
  }

def clock : IO Log.Clock := do
  let here ← Std.Time.DateTime.now
  let utc := Std.Time.DateTime.ofTimestamp here.timestamp Std.Time.TimeZone.ZoneRules.UTC
  return ⟨(momentOf here).localText, (momentOf utc).utcText⟩

instance : Host IO where
  resolve p := do
    let place ← placeOf p ((← workingDirectory) ++ p).components.reverse
    return place.map (Path.mk .slash)
  readFile path := attempt path fun name => return (← IO.FS.readBinFile name).toList
  writeFile path t :=
    match t with
    | .error fault => return .error ⟨.notEncodable fault, path⟩
    | .ok t => attempt path fun name => IO.FS.writeFile name (String.ofList t)
  appendFile path t := attempt path fun name =>
    IO.FS.withFile name .append fun handle => handle.putStr (String.ofList t)
  makeDirectory path := attempt path fun name => IO.FS.createDir name
  isDirectory path := do
    let isThere ← attempt path fun name => do ((← IO.currentDir) / name).isDir
    return isThere matches .ok true
  putOut t := IO.print (String.ofList t)
  putError t := IO.eprint (String.ofList t)
  reportLoss := IO.eprintln "--- Logging error ---"
  clock := clock

def surroundings : IO Path.Surroundings := do
  let accounts ← try IO.FS.readFile "/etc/passwd" catch _ => pure ""
  let home? ← IO.getEnv "HOME"
  return {
    programRoot := Path.ofText (WideText.ofText (← IO.appDir).toString.toList)
    workingDirectory := ← workingDirectory
    home := WideText.ofText (home?.getD "").toList
    homeOf user := do
      let home ← Accounts.homeOf accounts.toList (← user.toText?)
      return WideText.ofText home
  }

end Main

end ScriptManual

open ScriptManual in
def main (arguments : List String) : IO UInt32 := do
  let arguments := arguments.map fun t => WideText.ofText t.toList
  match ← (Cli.run Main.validation (← Main.surroundings) arguments : IO Cli.Ending) with
  | .status n => return n.toUInt32
  | .crash c =>
    IO.eprintln (String.ofList c.message)
    return 1

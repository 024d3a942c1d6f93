import ScriptManual.Number.Binary64
import ScriptManual.Text.Wide

/-!
This module contains JSON values. Numbers keep apart the integers, which are exact, and the numbers
written with a fraction or an exponent. The members of an object keep their order.
-/

namespace ScriptManual

inductive Json where
  | null
  | bool (b : Bool)
  | int (n : Int)
  | float (x : Binary64)
  | str (t : WideText)
  | arr (items : List Json)
  | obj (members : List (WideText × Json))
  deriving Inhabited

namespace Json

def text (t : Text) : Json :=
  .str t

def object (members : List (Text × Json)) : Json :=
  .obj (members.map fun (key, value) => (WideText.ofText key, value))

end Json

end ScriptManual

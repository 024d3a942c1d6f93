import ScriptManual.Text.Basic

/-!
This module contains the list of the accounts of a system. It has one account per line, with colons
between the fields.
-/

namespace ScriptManual

namespace Accounts

def homeInLine? (user : Text) (line : Text) : Option Text :=
  match Text.split ':' line with
  | name :: _ :: _ :: _ :: _ :: home :: _ => if name = user then some home else none
  | _ => none

def homeOf (accounts : Text) (user : Text) : Option Text :=
  (Text.split '\n' accounts).findSome? (homeInLine? user)

end Accounts

end ScriptManual

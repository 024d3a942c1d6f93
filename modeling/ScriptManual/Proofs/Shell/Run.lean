import ScriptManual.Shell.Dispatch

/-!
This module contains what a shell does when it runs a loop: the state that the commands work on, one
turn of the loop, and the ways in which the loop can end.
-/

namespace ScriptManual

namespace Shell

structure State where
  table : Table
  arguments : List Text
  output : Text

inductive Ending where
  | exhausted (s : State)
  | left (s : State)
  | exited (status : Nat) (table : Table) (output : Text)
  | stuck (s : State)

/--
Run a command. An argument that is not there reads as the empty text.
-/
def Command.run (s : State) : Command → Except Ending State
  | .assignOn key => .ok { s with table := s.table.insert key Table.switchOn }
  | .assignNext key => .ok { s with table := s.table.insert key (s.arguments[1]?.getD []) }
  | .shift =>
    match s.arguments with
    | _ :: rest => .ok { s with arguments := rest }
    | [] => .error (.stuck s)
  | .shiftTwo =>
    match s.arguments with
    | _ :: _ :: rest => .ok { s with arguments := rest }
    | _ => .error (.stuck s)
  | .leave => .error (.left s)
  | .print _ text => .ok { s with output := s.output ++ text }
  | .exit status => .error (.exited status s.table s.output)

namespace Loop

def commandsAt (l : Loop) (argument : Text) : List Command :=
  match l.arms.find? (·.patterns.contains argument) with
  | some a => a.commands
  | none => l.otherwise

def turn (l : Loop) (s : State) : Except Ending State :=
  match s.arguments with
  | [] => .error (.exhausted s)
  | argument :: _ => (l.commandsAt argument).foldlM Command.run s

inductive Runs (l : Loop) : State → Ending → Prop where
  | stop {s : State} {e : Ending} (h : l.turn s = .error e) : Runs l s e
  | again {s s' : State} {e : Ending} (h : l.turn s = .ok s') (hr : Runs l s' e) : Runs l s e

variable {l : Loop} {s s' : State} {e e' : Ending}

theorem runs_iff_of_turn_eq_error (h : l.turn s = .error e) : l.Runs s e' ↔ e' = e := by
  constructor
  . intro hr
    cases hr with
    | stop h' =>
      rw [h] at h'
      cases h'
      rfl
    | again h' _ =>
      rw [h] at h'
      contradiction
  . rintro rfl
    exact .stop h

theorem runs_iff_of_turn_eq_ok (h : l.turn s = .ok s') : l.Runs s e ↔ l.Runs s' e := by
  constructor
  . intro hr
    cases hr with
    | stop h' =>
      rw [h] at h'
      contradiction
    | again h' hr =>
      rw [h] at h'
      cases h'
      exact hr
  . exact .again h

end Loop

end Shell

end ScriptManual

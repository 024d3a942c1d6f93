import ScriptManual.Log.Sink
import ScriptManual.Proofs.Host.Lawful

/-!
This module contains what logging changes: no file but the one it goes to, and nothing that the
operations it is made of do not change.
-/

namespace ScriptManual

namespace Log

namespace Sink

open Host

section

variable {σ : Type} [Host (StateM σ)] {rel : σ → σ → Prop} {allowed : Sink → Prop}

theorem preserves_start (hrel : IsFrame rel) (directory : Path) {path? : Option Path}
    (hoff : allowed .off)
    (hfile : ∀ path, path? = some path →
      Preserves rel (makeDirectories path.parent : StateM σ _) (fun _ => True) ∧
      Preserves rel (appendFile (Path.absolute directory path) [] : StateM σ _) (fun _ => True) ∧
      allowed (.file (Path.absolute directory path) true)) :
    Preserves rel (start directory path? : StateM σ _)
      fun started => ∀ sink, started = .ok sink → allowed sink := by
  unfold start
  cases path? with
  | none =>
    apply hrel.pure
    rintro sink ⟨⟩
    exact hoff
  | some path =>
    obtain ⟨hmake, happend, hallowed⟩ := hfile path rfl
    apply hrel.bind hmake
    intro made _
    cases made with
    | error e => exact hrel.pure (by simp)
    | ok _ =>
      apply hrel.bind happend
      intro opened _
      cases opened with
      | error e => exact hrel.pure (by simp)
      | ok _ =>
        apply hrel.pure
        rintro sink ⟨⟩
        exact hallowed

theorem preserves_log (hrel : IsFrame rel) {sink : Sink} (h : allowed sink) {r : Record}
    (hclock : Preserves rel (clock : StateM σ _) fun _ => True)
    (hconsole : ∀ least, sink = .console least → least ≤ r.level →
      Preserves rel (putError (r.message ++ ['\n']) : StateM σ _) fun _ => True)
    (hfile : ∀ path first, sink = .file path first →
      allowed (.file path false) ∧
      Preserves rel (reportLoss : StateM σ _) (fun _ => True) ∧
      ∀ t, Preserves rel (appendFile path t : StateM σ _) fun _ => True) :
    Preserves rel (sink.log r : StateM σ _) allowed := by
  unfold log
  split
  . exact hrel.pure h
  . next hn =>
    cases sink with
    | console least =>
      apply hrel.bind (hconsole least rfl (by simpa [isEnabled] using hn))
      intro _ _
      exact hrel.pure h
    | file path first =>
      obtain ⟨hallowed, hloss, happend⟩ := hfile path first rfl
      apply hrel.bind hclock
      intro clock _
      dsimp only
      split
      . exact hrel.bind hloss fun _ _ => hrel.pure h
      . split
        . exact hrel.bind hloss fun _ _ => hrel.pure hallowed
        . apply hrel.bind (happend _)
          intro appended _
          cases appended with
          | error e => exact hrel.bind hloss fun _ _ => hrel.pure hallowed
          | ok _ => exact hrel.pure hallowed

theorem preserves_logEvents (hrel : IsFrame rel) {sink : Sink} (h : allowed sink)
    {events : List Event} (hclock : Preserves rel (clock : StateM σ _) fun _ => True)
    (hlog : ∀ e ∈ events, ∀ clock sink, allowed sink →
      Preserves rel (sink.log (e.record clock) : StateM σ _) allowed) :
    Preserves rel (sink.logEvents events : StateM σ _) allowed := by
  unfold logEvents
  induction events generalizing sink with
  | nil => exact hrel.pure h
  | cons e es ih =>
    rw [List.foldlM_cons]
    refine hrel.bind ?_ fun sink' h' => ih h' fun e he => hlog e (by simp [he])
    apply hrel.bind hclock
    intro clock _
    exact hlog e (by simp) clock sink h

end

/--
Whether records go to no file but one that may be changed, if paths lead where `lead` says.
-/
def Within (lead : Path → Path.Place) (touched : Path.Place → Prop) : Sink → Prop
  | .console _ => True
  | .file path _ => touched (lead path)

variable {σ : Type} [View σ] [Host (StateM σ)] [Lawful σ] {lead : Path → Path.Place}
  {touched : Path.Place → Prop}

theorem quiet_start {path? : Option Path} (directory : Path)
    (h : ∀ p, path? = some p → p.IsResolved ∧ touched (lead p)) :
    Quiet lead touched (start directory path? : StateM σ _)
      fun started => ∀ sink, started = .ok sink → sink.Within lead touched := by
  apply preserves_start (isFrame_keepsAlong lead touched) directory trivial
  intro path hpath
  obtain ⟨hp, ht⟩ := h path hpath
  rw [hp.absolute_eq]
  exact ⟨quiet_makeDirectories path.parent, quiet_appendFile ht [], ht⟩

theorem quiet_log {sink : Sink} (h : sink.Within lead touched) (r : Record) :
    Quiet lead touched (sink.log r : StateM σ _) (Within lead touched) := by
  apply preserves_log (isFrame_keepsAlong lead touched) h (Quiet.of_keeps Lawful.keeps_clock)
  . intro least _ _
    exact Quiet.of_keeps (Lawful.keeps_putError _)
  . rintro path first rfl
    exact ⟨h, Quiet.of_keeps Lawful.keeps_reportLoss, quiet_appendFile h⟩

theorem quiet_logEvents {sink : Sink} (h : sink.Within lead touched) (events : List Event) :
    Quiet lead touched (sink.logEvents events : StateM σ _) (Within lead touched) :=
  preserves_logEvents (isFrame_keepsAlong lead touched) h (Quiet.of_keeps Lawful.keeps_clock)
    fun e _ clock _ hsink => quiet_log hsink (e.record clock)

end Sink

end Log

end ScriptManual

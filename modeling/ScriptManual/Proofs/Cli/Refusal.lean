import Mathlib.Data.List.Basic
import ScriptManual.Proofs.Cli.Delivery
import ScriptManual.Proofs.Settings.Load

/-!
This module contains how a run answers a settings file that is refused: with why on the error output,
a status of one and nothing on the standard output.
-/

namespace ScriptManual

namespace World

open Host

/--
Whether the outputs are the same in two states, but for what is said about lost records.
-/
structure OnlyLoses (before after : World) : Prop where
  out_eq : after.out = before.out
  error_eq : ∃ lost, after.error = before.error ++ (List.replicate lost before.lossReport).flatten
  lossReport_eq : after.lossReport = before.lossReport

theorem onlyLoses_of_eq {before after : World} (hout : after.out = before.out)
    (herror : after.error = before.error) (hloss : after.lossReport = before.lossReport) :
    OnlyLoses before after :=
  ⟨hout, ⟨0, herror.trans (List.append_nil _).symm⟩, hloss⟩

theorem OnlyLoses.trans {w w' w'' : World} (h : OnlyLoses w w') (h' : OnlyLoses w' w'') :
    OnlyLoses w w'' where
  out_eq := h'.out_eq.trans h.out_eq
  error_eq := by
    obtain ⟨n, herror⟩ := h.error_eq
    obtain ⟨n', herror'⟩ := h'.error_eq
    refine ⟨n + n', ?_⟩
    rw [herror', herror, h.lossReport_eq, List.append_assoc, ← List.flatten_append,
      List.replicate_add]
  lossReport_eq := h'.lossReport_eq.trans h.lossReport_eq

theorem isFrame_onlyLoses : IsFrame OnlyLoses where
  refl _ := onlyLoses_of_eq rfl rfl rfl
  trans := OnlyLoses.trans

theorem onlyLoses_change (p : Path) (f : World → Path → Except OsError.Kind FileTree) :
    Preserves OnlyLoses (change p f) fun _ => True := by
  intro w
  rw [run_change]
  cases f w p <;> exact ⟨onlyLoses_of_eq rfl rfl rfl, trivial⟩

theorem onlyLoses_makeDirectories (p : Path) :
    Preserves OnlyLoses (makeDirectories p : WorldM _) fun _ => True :=
  isFrame_onlyLoses.makeDirectoriesAt _ (fun _ _ => onlyLoses_change _ _)
    fun _ _ => ⟨onlyLoses_of_eq rfl rfl rfl, trivial⟩

theorem onlyLoses_clock : Preserves OnlyLoses (Host.clock : WorldM _) fun _ => True :=
  fun _ => ⟨onlyLoses_of_eq rfl rfl rfl, trivial⟩

theorem onlyLoses_reportLoss : Preserves OnlyLoses (Host.reportLoss : WorldM _) fun _ => True :=
  fun w => ⟨⟨rfl, ⟨1, by rw [List.replicate_one, List.flatten_singleton]; rfl⟩, rfl⟩, trivial⟩

def Leads (w : World) (p q : Path) : Prop :=
  ((Host.resolve p : WorldM _).run w).1 = .ok q

end World

namespace Log

namespace Sink

open Host World

def IsSilent : Sink → Prop
  | .console least => Level.error < least
  | .file _ _ => True

theorem silent_start (directory : Path) (path? : Option Path) :
    Preserves OnlyLoses (start directory path? : WorldM _)
      fun started => ∀ sink, started = .ok sink → sink.IsSilent := by
  apply preserves_start isFrame_onlyLoses directory (by decide : Level.error < 51)
  intro path _
  exact ⟨onlyLoses_makeDirectories _, onlyLoses_change _ _, trivial⟩

theorem silent_log {sink : Sink} (h : sink.IsSilent) {r : Record} (hr : r.level ≤ Level.error) :
    Preserves OnlyLoses (sink.log r : WorldM _) IsSilent := by
  apply preserves_log isFrame_onlyLoses h onlyLoses_clock
  . rintro least rfl hle
    exact absurd (Int.le_trans hle hr) (Int.not_le.2 h)
  . exact fun path first _ => ⟨trivial, onlyLoses_reportLoss, fun t => onlyLoses_change _ _⟩

theorem silent_logEvents {sink : Sink} (h : sink.IsSilent) {events : List Event}
    (he : ∀ e ∈ events, e.level ≤ Level.error) :
    Preserves OnlyLoses (sink.logEvents events : WorldM _) IsSilent :=
  preserves_logEvents isFrame_onlyLoses h onlyLoses_clock
    fun e hmem _ _ hsink => silent_log hsink (he e hmem)

end Sink

end Log

namespace Cli

open World

def Finds (s : Path.Surroundings) (w : World) (given? : Option Given) (path? : Option Path) : Prop :=
  ∃ p?, meant? s given? = .ok p? ∧ Option.Rel w.Leads p? path?

/--
Whether a run gets to its settings file, which is at a path and has some contents then.
-/
def Request.ReadsSettings (s : Path.Surroundings) (r : Request) (before : World) (path : Path)
    (contents : Except OsError (List UInt8)) : Prop :=
  ∃ log? sink now script? output?, Finds s before r.logFile? log? ∧
    (Log.Sink.start s.workingDirectory log? : WorldM _).run before = (.ok sink, now) ∧
    Finds s now (some (.text r.script)) script? ∧ Finds s now r.config? (some path) ∧
    Finds s now r.output? output? ∧
    contents = (now.read path).mapError fun kind => ⟨kind, path⟩

section

variable {α β : Type}

theorem run_bind_of_ok {x : RunM WorldM α} {f : α → RunM WorldM β} {sink sink' : Log.Sink}
    {w w' : World} {a : α} (h : (x.run.run sink).run w = ((.ok a, sink'), w')) :
    ((x >>= f).run.run sink).run w = ((f a).run.run sink').run w' := by
  rw [ExceptT.run_bind, StateT.run_bind, StateT.run_bind, h]
  rfl

theorem run_bind_of_error {x : RunM WorldM α} {f : α → RunM WorldM β} {sink sink' : Log.Sink}
    {w w' : World} {e : Stop} (h : (x.run.run sink).run w = ((.error e, sink'), w')) :
    ((x >>= f).run.run sink).run w = ((.error e, sink'), w') := by
  rw [ExceptT.run_bind, StateT.run_bind, StateT.run_bind, h]
  rfl

theorem run_ofExcept (x : Except Stop α) (sink : Log.Sink) (w : World) :
    ((MonadExcept.ofExcept x : RunM WorldM α).run.run sink).run w = ((x, sink), w) := by
  cases x <;> rfl

theorem run_lift (x : WorldM α) (sink : Log.Sink) (w : World) :
    ((liftM x : RunM WorldM α).run.run sink).run w = ((.ok (x.run w).1, sink), (x.run w).2) :=
  rfl

end

theorem run_resolve {w : World} {p q : Path} (h : w.Leads p q) (sink : Log.Sink) :
    ((resolve p : RunM WorldM Path).run.run sink).run w = ((.ok q, sink), w) := by
  unfold resolve
  rw [run_bind_of_ok (run_lift _ _ _), h]
  rfl

theorem run_mapM_resolve {w : World} {p? q? : Option Path} (h : Option.Rel w.Leads p? q?)
    (sink : Log.Sink) :
    ((p?.mapM resolve : RunM WorldM _).run.run sink).run w = ((.ok q?, sink), w) := by
  cases h with
  | none => rfl
  | some h =>
    rw [Option.mapM_some, map_eq_pure_bind, run_bind_of_ok (run_resolve h sink)]
    rfl

theorem run_generate_of_loadSettings {v : Settings.Validation} {s : Path.Surroundings} {r : Request}
    {before : World} {path : Path} {contents : Except OsError (List UInt8)}
    (h : r.ReadsSettings s before path contents) {stop : Stop}
    (hload : loadSettings v (some (path, contents)) = .error stop) :
    ∃ sink now, sink.IsSilent ∧ before.OnlyLoses now ∧
      ((generate v s r : RunM WorldM Unit).run.run .initial).run before =
        ((.error stop, sink), now) := by
  obtain ⟨log?, sink, now, script?, output?, ⟨logMeant?, hlog, hlog'⟩, hstart,
    ⟨scriptMeant?, hmeant, hscript'⟩, ⟨configMeant?, hconfig, hconfig'⟩,
    ⟨outputMeant?, houtput, houtput'⟩, rfl⟩ := h
  obtain ⟨scriptMeant, hscript, rfl⟩ := exists_of_map_eq_ok hmeant
  obtain ⟨hloses, hsink⟩ := Log.Sink.silent_start s.workingDirectory log? before
  rw [hstart] at hloses hsink
  refine ⟨sink, now, hsink sink rfl, hloses, ?_⟩
  have hstarted : ((liftM (Log.Sink.start s.workingDirectory log? : WorldM _) :
      RunM WorldM _).run.run .initial).run before = ((.ok (.ok sink), .initial), now) := by
    rw [run_lift, hstart]
  have hset : ((set sink : RunM WorldM PUnit).run.run .initial).run now = ((.ok ⟨⟩, sink), now) := rfl
  have hread : ((((some path).mapM fun path => return (path, ← readFile path)) :
      RunM WorldM _).run.run sink).run now =
      ((.ok (some (path, (now.read path).mapError fun kind => ⟨kind, path⟩)), sink), now) := rfl
  unfold generate
  rw [hlog, run_bind_of_ok (run_ofExcept _ _ _), run_bind_of_ok (run_mapM_resolve hlog' _)]
  rw [run_bind_of_ok hstarted]
  dsimp only
  rw [run_bind_of_ok hset, hscript, run_bind_of_ok (run_ofExcept _ _ _)]
  cases hscript' with
  | some hscript' =>
    rw [run_bind_of_ok (run_resolve hscript' _)]
    rw [hconfig, run_bind_of_ok (run_ofExcept _ _ _), run_bind_of_ok (run_mapM_resolve hconfig' _)]
    rw [houtput, run_bind_of_ok (run_ofExcept _ _ _), run_bind_of_ok (run_mapM_resolve houtput' _)]
    rw [run_bind_of_ok hread, hload]
    exact run_bind_of_error (run_ofExcept _ _ _)

theorem run_conclude_failure {sink : Log.Sink} (h : sink.IsSilent) (f : Failure) (w : World) :
    ∃ sink' logged after, w.OnlyLoses logged ∧
      ((conclude (.error (.failure f)) : StateT _ WorldM _).run sink).run w =
        ((.status 1, sink'), after) ∧
      after.out = logged.out ∧
      after.error = logged.error ++ ("ERROR: ".toList ++ f.message.shown ++ ['\n']) := by
  let event : Log.Event := ⟨Log.Level.error, "app_error".toList,
    [("error_type".toList, .text f.kind), ("error".toList, .text f.message)]⟩
  have he : ∀ e ∈ [event], e.level ≤ Log.Level.error := by
    simp [event]
  obtain ⟨hloses, -⟩ := Log.Sink.silent_logEvents h he w
  exact ⟨_, _, _, hloses, rfl, rfl, rfl⟩

/--
A settings file is answered unless its contents break the loading of settings: there are settings whose
marker can be seen, or the run tells why there are none and ends with a status of one.
-/
theorem settings_file_answered (v : Settings.Validation) [Settings.LawfulValidation v] (path : Path)
    (contents : Except OsError (List UInt8)) :
    (∀ e, Settings.Breaks contents e → Settings.load v path contents = .error e) ∧
      ((∀ e, ¬Settings.Breaks contents e) →
        (∃ settings, Settings.load v path contents = .ok settings ∧ settings.marker ≠ [] ∧
          ∀ c, CodePoint.char c ∈ settings.marker → Text.isBlank c = false) ∨
        ∃ e, Settings.load v path contents = .error (.refused e) ∧
          ∀ (s : Path.Surroundings) (arguments : List WideText) (r : Request) (before : World),
            Command.ofArguments arguments = .ok (.generate r) →
            r.ReadsSettings s before path contents →
            ∃ lost after, (run v s arguments : WorldM Ending).run before = (.status 1, after) ∧
              after.out = before.out ∧
              after.error = before.error ++ (List.replicate lost before.lossReport).flatten
                ++ ("ERROR: ".toList ++ e.message.shown ++ ['\n'])) := by
  refine ⟨fun e he => Settings.load_of_breaks v path he, ?_⟩
  intro hbreaks
  cases hl : Settings.load v path contents with
  | ok settings =>
    exact .inl ⟨settings, rfl, Settings.isVisible_iff.1 (Settings.isVisible_of_load hl)⟩
  | error e =>
    obtain ⟨e, rfl⟩ | he := Settings.refused_or_breaks_of_load hl
    . refine .inr ⟨e, rfl, ?_⟩
      intro s arguments r before hr hreads
      have hload : loadSettings v (some (path, contents)) = .error (.failure (.settings e)) := by
        rw [loadSettings, hl]
        rfl
      obtain ⟨sink, now, hsilent, hloses, hg⟩ := run_generate_of_loadSettings hreads hload
      obtain ⟨sink', logged, after, hloses', hc, hout, herror⟩ :=
        run_conclude_failure hsilent (.settings e) now
      have hrun : (run v s arguments : WorldM Ending).run before = (.status 1, after) := by
        rw [run_generate v hr, hg]
        dsimp only
        rw [hc]
      have hlogged := hloses.trans hloses'
      obtain ⟨lost, hlost⟩ := hlogged.error_eq
      exact ⟨lost, after, hrun, hout.trans hlogged.out_eq, hlost ▸ herror⟩
    . exact absurd he (hbreaks e)

/-
The script of the sample has a settings file beside it.
-/
def configWorld (bytes : List UInt8) : World :=
  { sampleWorld with
    tree := sampleWorld.tree.put [[.char 'w'], WideText.ofText "c.json".toList] (.file bytes) }

def configPath : Path := ⟨.slash, [[.char 'w'], WideText.ofText "c.json".toList]⟩

def configArguments : List WideText := ["s.sh".toList, "--config".toList, "c.json".toList]

def blankMarker : List UInt8 := Text.Utf8.encode "\x7b\"comment_marker\": \" \"\x7d".toList

def blankMarkerReport : Text :=
  "1 validation error for GeneratorSettings\ncomment_marker\n".toList
    ++ "  Value error, comment_marker must be non-empty and contain no whitespace".toList
    ++ " [type=value_error, input_value=' ', input_type=str]".toList

theorem settings_file_answered_blank_marker :
    (∀ e, ¬Settings.Breaks (.ok blankMarker) e) ∧
      ∃ after,
        (run Main.validation sampleSurroundings configArguments : WorldM Ending).run
          (configWorld blankMarker) = (.status 1, after) ∧
        after.out = [] ∧
        after.error = "ERROR: Invalid settings in /w/c.json: ".toList ++ blankMarkerReport ++ ['\n'] := by
  have hload : Settings.load Main.validation configPath (.ok blankMarker) =
      .error (.refused (.invalid (.file configPath) blankMarkerReport)) := by
    decide +kernel
  have hbreaks : ∀ e, ¬Settings.Breaks (.ok blankMarker) e := by
    intro e he
    have h := Settings.load_of_breaks Main.validation configPath he
    rw [hload] at h
    cases h
    exact he
  refine ⟨hbreaks, ?_⟩
  have hr : Command.ofArguments configArguments = .ok (.generate
      { Taken.empty.request with
        script := "s.sh".toList, config? := some (.text "c.json".toList) }) := rfl
  obtain ⟨settings, hs, -⟩ | ⟨e, he, h⟩ :=
    (settings_file_answered Main.validation configPath (.ok blankMarker)).2 hbreaks
  . rw [hload] at hs
    contradiction
  . obtain ⟨lost, after, hrun, hout, -⟩ := h sampleSurroundings configArguments _
      (configWorld blankMarker) hr
      ⟨none, .off, configWorld blankMarker, some ⟨.slash, [[.char 'w'], WideText.ofText "s.sh".toList]⟩,
        none, ⟨none, rfl, .none⟩, rfl, ⟨some _, rfl, .some rfl⟩, ⟨some _, rfl, .some rfl⟩,
        ⟨none, rfl, .none⟩, by decide +kernel⟩
    have herror : ((run Main.validation sampleSurroundings configArguments : WorldM Ending).run
        (configWorld blankMarker)).2.error =
          "ERROR: Invalid settings in /w/c.json: ".toList ++ blankMarkerReport ++ ['\n'] := by
      decide +kernel
    rw [hrun] at herror
    exact ⟨after, hrun, hout, herror⟩

/--
A file that is no text breaks the run.
-/
theorem settings_file_breaks_run :
    Settings.load Main.validation configPath (.ok [0xFF]) =
        .error (.undecodable ⟨0, 1, 0xFF, .invalidStart⟩) ∧
      ((run Main.validation sampleSurroundings configArguments : WorldM Ending).run
          (configWorld [0xFF])).1 =
        .crash (.undecodableSettings ⟨0, 1, 0xFF, .invalidStart⟩) := by
  decide +kernel

end Cli

end ScriptManual

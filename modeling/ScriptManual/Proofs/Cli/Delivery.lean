import ScriptManual.Cli.Run
import ScriptManual.Main.Validation
import ScriptManual.Proofs.Host.FileTree
import ScriptManual.Proofs.Log.Sink

/-!
This module contains what a run of the program leaves behind. It writes nothing but its log until all
of its work is done, and then the generated text to one place.
-/

namespace ScriptManual

open ScriptManual.Path (Place)

theorem Settings.result_generate (s : Settings) (title : WideText) (lines : List Text) :
    (s.generate title lines).result =
      (s.missing.manual (extractMarked s.marker lines)).map
        fun m => ⟨m, s.format.render m title⟩ := by
  unfold Settings.generate
  dsimp only
  cases s.missing.manual (extractMarked s.marker lines) <;> rfl

namespace Cli

open Host

abbrev File := Path × Except OsError (List UInt8)

/--
The text that is generated from the script and the settings file, if there is one.
-/
def Request.text (v : Settings.Validation) (r : Request) (script : File) (config? : Option File) :
    Except Stop (Except WideText.EncodeFault Text) := do
  let settings ← r.override v (← loadSettings v config?)
  let lines ← scriptLines script.1 script.2
  let manual ← (settings.missing.manual (extractMarked settings.marker lines)).mapError
    fun e => .failure (.extract e)
  return settings.format.render manual (r.title script.1)

theorem Request.text_eq {v : Settings.Validation} {r : Request} {script : File}
    {config? : Option File} {settings : Settings} {lines : List Text} {manual : Manual}
    (hs : (do r.override v (← loadSettings v config?)) = .ok settings)
    (hl : scriptLines script.1 script.2 = .ok lines)
    (hm : settings.missing.manual (extractMarked settings.marker lines) = .ok manual) :
    r.text v script config? = .ok (settings.format.render manual (r.title script.1)) := by
  unfold Request.text
  rw [← bind_assoc, hs]
  change (do let lines ← scriptLines script.1 script.2; _) = _
  rw [hl]
  change (do let manual ← Except.mapError _ (settings.missing.manual _); _) = _
  rw [hm]
  rfl

section

variable {σ : Type} [View σ]

def Request.LogsTo (s : Path.Surroundings) (r : Request) (before : σ) (place : Place) : Prop :=
  ∃ p, meant? s r.logFile? = .ok (some p) ∧ View.target before p = place

/--
Whether a text has been written to one place, the output file if there is one and otherwise the
standard output, and all files but those that may be changed are as before.
-/
def Delivered (touched : Place → Prop) (text : Text) (before after : σ) : Option Place → Prop
  | none => View.out after = View.out before ++ text ∧ KeepsFiles touched before after
  | some output =>
    Keeps (fun place => touched place ∨ place = output) before after ∧
      (¬touched output → View.file? after output = some (Text.Utf8.encode text))

theorem Delivered.keepsFiles {touched : Place → Prop} {text : Text} {s s' : σ}
    {output? : Option Place} (h : Delivered touched text s s' output?) :
    KeepsFiles (fun place => touched place ∨ place ∈ output?) s s' := by
  cases output? with
  | none => exact h.2.mono fun _ => .inl
  | some output => exact h.1.toKeepsFiles.mono fun place => Or.imp_right fun hp => hp ▸ rfl

theorem Delivered.trans {touched : Place → Prop} {text : Text} {s s' s'' : σ}
    {output? : Option Place} (h : Delivered touched text s s' output?) (h' : Keeps touched s' s'') :
    Delivered touched text s s'' output? := by
  cases output? with
  | none => exact ⟨h'.out_eq.trans h.1, h.2.trans h'.toKeepsFiles⟩
  | some output =>
    refine ⟨h.1.trans (h'.mono fun _ => .inl), ?_⟩
    intro ht
    rw [h'.file?_eq output ht, h.2 ht]

/--
Whether nothing has been written yet but the log, which goes where it may.
-/
structure Undelivered (touched : Place → Prop) (before : σ) (sink : Log.Sink) (s : σ) : Prop where
  within : sink.Within (View.target before) touched
  keeps : Keeps touched before s

/--
Whether a computation of a run, started in a state as it should be, ends in one. If it ends before its
work is done, nothing has been written.
-/
def Triple {α : Type} (touched : Place → Prop) (before : σ) (pre : Log.Sink → σ → Prop)
    (x : RunM (StateM σ) α) (post : α → Log.Sink → σ → Prop) : Prop :=
  ∀ sink s, pre sink s →
    match (x.run.run sink).run s with
    | ((.ok a, sink'), s') => post a sink' s'
    | ((.error _, sink'), s') => Undelivered touched before sink' s'

variable {α β : Type} {touched : Place → Prop} {before : σ} {pre : Log.Sink → σ → Prop}

theorem Triple.bind {x : RunM (StateM σ) α} {f : α → RunM (StateM σ) β}
    {mid : α → Log.Sink → σ → Prop} {post : β → Log.Sink → σ → Prop}
    (hx : Triple touched before pre x mid) (hf : ∀ a, Triple touched before (mid a) (f a) post) :
    Triple touched before pre (x >>= f) post := by
  intro sink s h
  have hx := hx sink s h
  rw [ExceptT.run_bind, StateT.run_bind, StateT.run_bind]
  match hr : (x.run.run sink).run s with
  | ((.ok a, sink'), s') =>
    rw [hr] at hx
    exact hf a sink' s' hx
  | ((.error e, sink'), s') =>
    rw [hr] at hx
    exact hx

theorem Triple.mono {x : RunM (StateM σ) α} {post post' : α → Log.Sink → σ → Prop}
    (hx : Triple touched before pre x post) (h : ∀ a sink s, post a sink s → post' a sink s) :
    Triple touched before pre x post' := by
  intro sink s hs
  have hx := hx sink s hs
  match hr : (x.run.run sink).run s with
  | ((.ok a, sink'), s') =>
    rw [hr] at hx
    exact h a sink' s' hx
  | ((.error e, sink'), s') =>
    rw [hr] at hx
    exact hx

/--
Whether a computation of a run writes nothing but the log, and what it returns is as it should be.
-/
def Prepares (touched : Place → Prop) (before : σ) (x : RunM (StateM σ) α) (post : α → Prop) : Prop :=
  Triple touched before (Undelivered touched before) x fun a sink s =>
    Undelivered touched before sink s ∧ post a

theorem Prepares.bind {x : RunM (StateM σ) α} {f : α → RunM (StateM σ) β} {mid : α → Prop}
    {post : β → Log.Sink → σ → Prop} (hx : Prepares touched before x mid)
    (hf : ∀ a, mid a → Triple touched before (Undelivered touched before) (f a) post) :
    Triple touched before (Undelivered touched before) (x >>= f) post := by
  apply Triple.bind hx
  rintro a sink s ⟨h, ha⟩
  exact hf a ha sink s h

theorem prepares_pure {a : α} {post : α → Prop} (h : post a) :
    Prepares touched before (pure a) post :=
  fun _ _ hs => ⟨hs, h⟩

theorem triple_throw (e : Stop) (post : α → Log.Sink → σ → Prop) :
    Triple touched before (Undelivered touched before) (throw e) post :=
  fun _ _ h => h

theorem triple_throw_bind (e : Stop) (f : α → RunM (StateM σ) β) (post : β → Log.Sink → σ → Prop) :
    Triple touched before (Undelivered touched before) (throw e >>= f) post :=
  fun _ _ h => h

theorem prepares_ofExcept (x : Except Stop α) :
    Prepares touched before (MonadExcept.ofExcept x) (x = .ok ·) := by
  intro sink s h
  cases x with
  | ok a => exact ⟨h, rfl⟩
  | error e => exact h

theorem prepares_set {sink : Log.Sink} (h : sink.Within (View.target before) touched) :
    Prepares touched before (set sink) fun _ => True :=
  fun _ _ hs => ⟨⟨h, hs.keeps⟩, trivial⟩

theorem prepares_lift {x : StateM σ α} {post : α → Prop}
    (hx : Quiet (View.target before) touched x post) :
    Prepares touched before (liftM x) post := by
  intro sink s h
  obtain ⟨hk, hp⟩ := hx s
  exact ⟨⟨h.within, h.keeps.trans (hk h.keeps.targets_eq)⟩, hp⟩

theorem prepares_lift_of_keeps {x : StateM σ α} {post : α → Prop}
    (hx : ∀ s, Keeps (fun _ => False) s (x.run s).2)
    (hp : ∀ now, Keeps touched before now → post (x.run now).1) :
    Prepares touched before (liftM x) post := by
  intro sink s h
  exact ⟨⟨h.within, h.keeps.trans ((hx s).mono fun _ => False.elim)⟩, hp s h.keeps⟩

theorem prepares_mapM {f : α → RunM (StateM σ) β} {post : α → β → Prop}
    (hf : ∀ a, Prepares touched before (f a) (post a)) (a? : Option α) :
    Prepares touched before (a?.mapM f) (Option.Rel post a?) := by
  cases a? with
  | none => exact prepares_pure .none
  | some a =>
    rw [Option.mapM_some, map_eq_pure_bind]
    apply Prepares.bind (hf a)
    intro b hb
    exact prepares_pure (.some hb)

variable [Host (StateM σ)]

/--
Whether `q` is found to be the path of the file that `p` leads to, when no file but some has been
changed yet.
-/
def Resolves (touched : Place → Prop) (before : σ) (p q : Path) : Prop :=
  ∃ now, Keeps touched before now ∧ ((Host.resolve p : StateM σ _).run now).1 = .ok q

/--
Whether a file is what the path `p` leads to, and what is read from there when no file but some has
been changed yet.
-/
def Reads (touched : Place → Prop) (before : σ) (p : Path) (file : File) : Prop :=
  Resolves touched before p file.1 ∧
    ∃ now, Keeps touched before now ∧
      ∀ bytes, file.2 = .ok bytes → View.file? now (View.target before p) = some bytes

/--
Whether the text that a request asks for has been written to its one place.
-/
def Request.Completed (v : Settings.Validation) (s : Path.Surroundings) (r : Request)
    (before after : σ) : Prop :=
  ∃ p script config? configFile? output? text,
    meant s (.text r.script) = .ok p ∧ Reads (r.LogsTo s before) before p script ∧
    meant? s r.config? = .ok config? ∧
    Option.Rel (Reads (r.LogsTo s before) before) config? configFile? ∧
    meant? s r.output? = .ok output? ∧ r.text v script configFile? = .ok (.ok text) ∧
    Delivered (r.LogsTo s before) text before after (output?.map (View.target before))

variable [Lawful σ]

theorem Resolves.isResolved {p q : Path} (h : Resolves touched before p q) : q.IsResolved := by
  obtain ⟨now, -, h⟩ := h
  exact (Lawful.target_of_resolve h).1

theorem Resolves.target_eq {p q : Path} (h : Resolves touched before p q) :
    View.target before q = View.target before p := by
  obtain ⟨now, hk, h⟩ := h
  rw [← hk.target_eq, ← hk.target_eq, (Lawful.target_of_resolve h).2]

theorem prepares_resolve (p : Path) :
    Prepares touched before (resolve p) (Resolves touched before p) := by
  unfold resolve
  have hresolve : Prepares touched before (liftM (Host.resolve p : StateM σ _))
      fun resolved => ∀ q, resolved = .ok q → Resolves touched before p q :=
    prepares_lift_of_keeps (Lawful.keeps_resolve p) fun now hk q hq => ⟨now, hk, hq⟩
  apply Prepares.bind hresolve
  intro resolved hq
  cases resolved with
  | ok q => exact prepares_pure (hq q rfl)
  | error e => exact triple_throw _ _

theorem quiet_report {lead : Path → Place} {sink : Log.Sink} (h : sink.Within lead touched)
    (events : List Log.Event) :
    Quiet lead touched ((report events).run sink : StateM σ _) (·.2.Within lead touched) :=
  fun s => Log.Sink.quiet_logEvents h events s

theorem prepares_report (events : List Log.Event) :
    Prepares touched before (.lift (report events)) fun _ => True := by
  intro sink s h
  obtain ⟨hk, hw⟩ := quiet_report h.within events s
  exact ⟨⟨hw, h.keeps.trans (hk h.keeps.targets_eq)⟩, trivial⟩

theorem prepares_readFile {p q : Path} (hq : Resolves touched before p q) :
    Prepares touched before (readFile q) fun contents => Reads touched before p (q, contents) := by
  apply prepares_lift_of_keeps (Lawful.keeps_readFile q)
  intro now hk
  refine ⟨hq, now, hk, ?_⟩
  intro bytes hbytes
  rw [← hq.target_eq, ← hk.target_eq]
  exact Lawful.file?_of_readFile hbytes

/-
A settings file is read under its path.
-/
theorem prepares_readFile? {p? q? : Option Path} (h : Option.Rel (Resolves touched before) p? q?) :
    Prepares touched before (q?.mapM fun q => return (q, ← readFile q))
      (Option.Rel (Reads touched before) p?) := by
  cases h with
  | none => exact prepares_pure .none
  | some hq =>
    rw [Option.mapM_some, map_bind]
    apply Prepares.bind (prepares_readFile hq)
    intro contents hc
    rw [map_pure]
    exact prepares_pure (.some hc)

theorem triple_writeFile {output : Path} {place : Place} (hp : View.target before output = place)
    (text : Except WideText.EncodeFault Text) :
    Triple touched before (Undelivered touched before)
      (liftM (writeFile output text : StateM σ _)) fun written sink s =>
        match written with
        | .error _ => Undelivered touched before sink s
        | .ok () => sink.Within (View.target before) touched ∧
            ∃ t, text = .ok t ∧ Delivered touched t before s (some place) := by
  intro sink s h
  have hp : View.target s output = place := (h.keeps.target_eq output).trans hp
  change match ((writeFile output text : StateM σ _).run s).1 with
    | .error _ => Undelivered touched before sink ((writeFile output text : StateM σ _).run s).2
    | .ok () => _
  split
  . next e he =>
    exact ⟨h.within, h.keeps.trans ((Lawful.keeps_of_writeFile he).mono fun _ => False.elim)⟩
  . next hw =>
    obtain ⟨t, ht, hfile⟩ := Lawful.file?_of_writeFile hw
    rw [hp] at hfile
    refine ⟨h.within, t, ht, ?_, fun _ => hfile⟩
    apply (h.keeps.mono fun _ => .inl).trans
    exact (Lawful.keeps_writeFile output text s).mono fun _ hq => .inr (hq.trans hp)

theorem triple_deliver {p? q? : Option Path} (h : Option.Rel (Resolves touched before) p? q?)
    (text : Except WideText.EncodeFault Text) :
    Triple touched before (Undelivered touched before) (deliver q? text) fun _ sink s =>
      sink.Within (View.target before) touched ∧
        ∃ t, text = .ok t ∧ Delivered touched t before s (p?.map (View.target before)) := by
  unfold deliver
  cases h with
  | none =>
    cases text with
    | error fault => exact triple_throw _ _
    | ok t =>
      intro sink s h
      refine ⟨h.within, t, rfl, (Lawful.out_putOut t s).trans (by rw [h.keeps.out_eq]), ?_⟩
      exact h.keeps.toKeepsFiles.trans ((Lawful.keepsFiles_putOut t s).mono fun _ => False.elim)
  | some hq =>
    apply Prepares.bind (prepares_lift (quiet_makeDirectories _))
    intro made _
    cases made with
    | error e => exact triple_throw_bind _ _ _
    | ok _ =>
      apply Triple.bind (triple_writeFile hq.target_eq text)
      intro written
      cases written with
      | error e => exact triple_throw _ _
      | ok _ => exact fun _ _ h => h

/-
Logging goes on behind the text.
-/
theorem triple_report {output? : Option Place} (text : Except WideText.EncodeFault Text)
    (events : List Log.Event) :
    Triple touched before
      (fun sink s => sink.Within (View.target before) touched ∧
        ∃ t, text = .ok t ∧ Delivered touched t before s output?)
      (.lift (report events)) fun _ _ s =>
        ∃ t, text = .ok t ∧ Delivered touched t before s output? := by
  rintro sink s ⟨hw, t, ht, hd⟩
  exact ⟨t, ht, hd.trans ((quiet_report hw events s).1 hd.keepsFiles.targets_eq)⟩

theorem triple_generate (v : Settings.Validation) (s : Path.Surroundings) (r : Request) (before : σ) :
    Triple (r.LogsTo s before) before (Undelivered (r.LogsTo s before) before) (generate v s r)
      fun _ _ after => r.Completed v s before after := by
  unfold generate
  apply Prepares.bind (prepares_ofExcept _)
  intro log? hlog
  apply Prepares.bind (prepares_mapM prepares_resolve log?)
  intro logPath? hlogPath
  have hstart : ∀ q, logPath? = some q → q.IsResolved ∧ r.LogsTo s before (View.target before q) := by
    rintro q rfl
    cases hlogPath with
    | some hq => exact ⟨hq.isResolved, _, hlog, hq.target_eq.symm⟩
  apply Prepares.bind (prepares_lift (Log.Sink.quiet_start _ hstart))
  intro started hstarted
  cases started with
  | error e =>
    exact triple_throw_bind _ _ _
  | ok sink =>
    apply Prepares.bind (prepares_set (hstarted sink rfl))
    intro _ _
    -- All paths are known before anything is read, and all is read before anything is generated.
    apply Prepares.bind (prepares_ofExcept _)
    intro p hp
    apply Prepares.bind (prepares_resolve p)
    intro script hscript
    apply Prepares.bind (prepares_ofExcept _)
    intro config? hconfig
    apply Prepares.bind (prepares_mapM prepares_resolve config?)
    intro configPath? hconfigPath
    apply Prepares.bind (prepares_ofExcept _)
    intro output? houtput
    apply Prepares.bind (prepares_mapM prepares_resolve output?)
    intro outputPath? houtputPath
    apply Prepares.bind (prepares_readFile? hconfigPath)
    intro configFile? hconfigFile
    apply Prepares.bind (prepares_ofExcept _)
    intro settings hsettings
    apply Prepares.bind (prepares_report _)
    intro _ _
    apply Prepares.bind (prepares_readFile hscript)
    intro contents hcontents
    apply Prepares.bind (prepares_ofExcept _)
    intro lines hlines
    apply Prepares.bind (prepares_report _)
    intro _ _
    apply Prepares.bind (prepares_lift (.of_keeps (Lawful.keeps_putError _)))
    intro _ _
    -- Only the result of the generation is left, which is written if there is one.
    have hgenerate := Settings.result_generate settings (r.title script) lines
    cases hm : settings.missing.manual (extractMarked settings.marker lines) with
    | error e =>
      rw [hm] at hgenerate
      rw [hgenerate]
      exact triple_throw _ _
    | ok manual =>
      rw [hm] at hgenerate
      rw [hgenerate]
      apply Triple.bind (triple_deliver houtputPath _)
      intro _
      apply Triple.mono (triple_report _ _)
      rintro _ _ after ⟨t, ht, hd⟩
      have htext : r.text v (script, contents) configFile? = _ :=
        Request.text_eq hsettings hlines hm
      exact ⟨p, (script, contents), config?, configFile?, output?, t, hp, hcontents, hconfig,
        hconfigFile, houtput, htext.trans (congrArg _ ht), hd⟩

def Ending.ofWork : Except Stop Unit → Ending
  | .ok () => .status 0
  | .error (.failure _) => .status 1
  | .error (.crash c) => .crash c

theorem quiet_conclude {lead : Path → Place} {sink : Log.Sink} (h : sink.Within lead touched)
    (work : Except Stop Unit) :
    Quiet lead touched ((conclude work).run sink : StateM σ _) (·.1 = .ofWork work) := by
  match work with
  | .ok () => exact quiet_pure rfl
  | .error (.crash c) => exact quiet_pure rfl
  | .error (.failure f) =>
    unfold conclude
    rw [StateT.run_bind]
    apply Quiet.bind (quiet_report h _)
    intro _ _ s
    exact ⟨fun _ => (Lawful.keeps_putError _ s).mono fun _ => False.elim, rfl⟩

omit [View σ] [Lawful σ] in
theorem run_generate (v : Settings.Validation) {s : Path.Surroundings} {arguments : List WideText}
    {r : Request} (hr : Command.ofArguments arguments = .ok (.generate r)) (before : σ) :
    (run v s arguments : StateM σ Ending).run before =
      let ((work, sink), s') := ((generate v s r).run.run .initial : StateM σ _).run before
      let ((ending, _), after) := ((conclude work).run sink : StateM σ _).run s'
      (ending, after) := by
  unfold run
  rw [hr]
  rfl

/--
A run that ends with a status of zero has written its whole text to its one place, and any other run has
written nothing but its log.
-/
theorem run_delivers_or_keeps (v : Settings.Validation) (s : Path.Surroundings)
    {arguments : List WideText} {r : Request}
    (hr : Command.ofArguments arguments = .ok (.generate r)) (before : σ) :
    match (run v s arguments : StateM σ Ending).run before with
    | (.status 0, after) => r.Completed v s before after
    | (.status n, after) => n = 1 ∧ Keeps (r.LogsTo s before) before after
    | (.crash _, after) => Keeps (r.LogsTo s before) before after := by
  have hw := triple_generate v s r before .initial before ⟨trivial, .refl _ _⟩
  rw [run_generate v hr]
  match hg : ((generate v s r : RunM (StateM σ) Unit).run.run .initial).run before with
  | ((.ok (), sink), after) =>
    rw [hg] at hw
    exact hw
  | ((.error stop, sink), s') =>
    rw [hg] at hw
    obtain ⟨hk, hend⟩ := quiet_conclude hw.within (.error stop) s'
    have hk := hw.keeps.trans (hk hw.keeps.targets_eq)
    dsimp only
    match hc : ((conclude (.error stop)).run sink : StateM σ _).run s' with
    | ((ending, _), after) =>
      rw [hc] at hk hend
      cases hend
      cases stop with
      | failure f => exact ⟨rfl, hk⟩
      | crash c => exact hk

end

/-
The program is started in a directory with a script in it, and with a link to the directory where
documents go.
-/
def sampleWorld : World where
  tree := .directory
    [([.char 'w'], .directory
      [(WideText.ofText "s.sh".toList,
        .file (Text.Utf8.encode "# Copy.\n# Options:\n# -v --verbose Say more\n".toList)),
        (WideText.ofText "out".toList, .link (WideText.ofText "../d".toList))]),
      ([.char 'd'], .empty)]
  directory := ⟨.slash, [[.char 'w']]⟩
  out := []
  error := []
  lossReport := "--- Logging error ---\n".toList
  clock := ⟨"2026-01-02T03:04:05+00:00".toList, "2026-01-02T03:04:05Z".toList⟩

def sampleSurroundings : Path.Surroundings where
  programRoot := ⟨.slash, [[.char 'p']]⟩
  workingDirectory := sampleWorld.directory
  home := []
  homeOf _ := none

def sampleArguments (script : Text) : List WideText :=
  [script, "--format".toList, "markdown".toList, "--output".toList, "out/s.md".toList]

def sampleRequest (script : Text) : Request :=
  { Taken.empty.request with
    script, format? := some (.text "markdown".toList), output? := some (.text "out/s.md".toList) }

def sampleDocument : Text :=
  "# s.sh\n\n```text\nCopy.\n```\n\n## Options\n\n".toList
    ++ "| Short | Long | Argument | Default | Description |\n|---|---|---|---|---|\n".toList
    ++ "| -v | --verbose |  |  | Say more |\n".toList

/-
The document goes through the link.
-/
theorem run_delivers_or_keeps_sample :
    (∃ after,
      (run Main.validation sampleSurroundings (sampleArguments "s.sh".toList) :
        StateM World Ending).run sampleWorld = (.status 0, after) ∧
      (sampleRequest "s.sh".toList).Completed Main.validation sampleSurroundings sampleWorld after ∧
      after.tree.file? [[.char 'd'], WideText.ofText "s.md".toList] =
        some (Text.Utf8.encode sampleDocument)) ∧
    ∃ after,
      (run Main.validation sampleSurroundings (sampleArguments "t.sh".toList) :
        StateM World Ending).run sampleWorld = (.status 1, after) ∧
      Keeps ((sampleRequest "t.sh".toList).LogsTo sampleSurroundings sampleWorld) sampleWorld
        after := by
  constructor
  . have hr : Command.ofArguments (sampleArguments "s.sh".toList) =
        .ok (.generate (sampleRequest "s.sh".toList)) := rfl
    have h := run_delivers_or_keeps Main.validation sampleSurroundings hr sampleWorld
    have hend : ((run Main.validation sampleSurroundings (sampleArguments "s.sh".toList) :
        StateM World Ending).run sampleWorld).1 = .status 0 := by decide +kernel
    have hfile : ((run Main.validation sampleSurroundings (sampleArguments "s.sh".toList) :
        StateM World Ending).run sampleWorld).2.tree.file?
          [[.char 'd'], WideText.ofText "s.md".toList] = some (Text.Utf8.encode sampleDocument) := by
      decide +kernel
    generalize (run _ _ _ : StateM World Ending).run sampleWorld = x at h hend hfile
    obtain ⟨_, after⟩ := x
    cases hend
    exact ⟨after, rfl, h, hfile⟩
  . have hr : Command.ofArguments (sampleArguments "t.sh".toList) =
        .ok (.generate (sampleRequest "t.sh".toList)) := rfl
    have h := run_delivers_or_keeps Main.validation sampleSurroundings hr sampleWorld
    have hend : ((run Main.validation sampleSurroundings (sampleArguments "t.sh".toList) :
        StateM World Ending).run sampleWorld).1 = .status 1 := by decide +kernel
    generalize (run _ _ _ : StateM World Ending).run sampleWorld = x at h hend
    obtain ⟨_, after⟩ := x
    cases hend
    exact ⟨after, rfl, h.2⟩

end Cli

end ScriptManual

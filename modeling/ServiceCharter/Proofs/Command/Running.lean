import ServiceCharter.Command.Run
import ServiceCharter.Proofs.Command.Words
import ServiceCharter.Proofs.Text.Utf8

/-!
# What a command line does on a disk

A script asks the disk and goes on with the answers. Here the answers are taken out of it: what a
run reads is named (`textAt`, `settingsAt`), and the script that reads is shown to go on with that,
or to fail with the message of the error (`Script.orFail`) and leave the disk as it is. A command
line then comes down to its request, behind the report on the log filter (`runOn_runMatches`).
-/

namespace ServiceCharter.Command

/-! ### Outcomes -/

/-- The outcome of a run that does nothing but write a line to the standard error. -/
def Outcome.failed (d : Disk) (line : String) : Outcome := ⟨1, [], line.toList ++ ['\n'], d⟩

/-- The outcome with a text in front of what is written to the standard error. -/
def Outcome.warned (o : Outcome) (t : Text) : Outcome := { o with errors := t ++ o.errors }

@[simp] theorem Outcome.code_failed (d : Disk) (line : String) : (failed d line).code = 1 := rfl

@[simp] theorem Outcome.disk_failed (d : Disk) (line : String) : (failed d line).disk = d := rfl

@[simp] theorem Outcome.code_warned (o : Outcome) (t : Text) : (o.warned t).code = o.code := rfl

@[simp] theorem Outcome.disk_warned (o : Outcome) (t : Text) : (o.warned t).disk = o.disk := rfl

@[simp] theorem Outcome.output_warned (o : Outcome) (t : Text) :
    (o.warned t).output = o.output := rfl

/-- A text in UTF-8. -/
def utf8 (t : Text) : ByteArray := (String.ofList t).toUTF8

theorem fromUTF8?_utf8 (t : Text) : String.fromUTF8? (utf8 t) = some (String.ofList t) :=
  Utf8.fromUTF8?_utf8Encode t

namespace Script

theorem runOn_fail (line : String) (d : Disk) : (fail line).runOn d = .failed d line := by
  simp [fail, runOn, Outcome.failed]

theorem runOn_orFail_error {ε α : Type} (message : ε → String) (e : ε) (next : α → Script)
    (d : Disk) : (orFail message (.error e) next).runOn d = .failed d (message e) :=
  runOn_fail _ d

theorem orFail_mapError {ε ε' α : Type} (message : ε' → String) (rename : ε → ε')
    (result : Except ε α) (next : α → Script) :
    orFail message (result.mapError rename) next =
      orFail (fun e => message (rename e)) result next := by
  cases result <;> rfl

/-- To fail at the second of two steps is to fail. -/
theorem orFail_bind {ε α β : Type} (message : ε → String) (result : Except ε α)
    (step : α → Except ε β) (next : β → Script) :
    orFail message (result.bind step) next =
      orFail message result fun a => orFail message (step a) next := by
  cases result <;> rfl

theorem runOn_warn (t : Text) (next : Script) (d : Disk) :
    (warn t next).runOn d = (next.runOn d).warned t := rfl

/-- Two lines that are reported are one. -/
theorem runOn_warn_fail (line line' : String) (d : Disk) :
    (warn line.toList (fail line')).runOn d = .failed d (line ++ line') := by
  rw [runOn_warn, runOn_fail]
  simp [Outcome.failed, Outcome.warned]

end Script

/-! ### What is read -/

/-- The text in a file. -/
def textAt (d : Disk) (path : String) : Except FileError Text :=
  match d.read path.toList with
  | .error e => .error e
  | .ok content =>
    match String.fromUTF8? content with
    | some s => .ok s.toList
    | none => .error .notText

/-- What a settings file holds, which may be found with its extension only. -/
def sourceAt (d : Disk) (path : Text) (required : Bool) : Settings.Source :=
  match d.read path with
  | .ok content => sourceOf required content
  | .error _ =>
    match otherPath? path with
    | none => .unreadable required
    | some other =>
      match d.read other with
      | .ok content => sourceOf required content
      | .error _ => .unreadable required

/-- The settings files of a run: the one of the working folder, and another if it is given. -/
def sourcesAt (d : Disk) (given : Option String) : List Settings.Source :=
  sourceAt d settingsFile false ::
    (given.map fun path => sourceAt d path.toList true).toList

/-- The settings that are loaded. -/
def settingsAt (d : Disk) (given : Option String) : Except Settings.Fault Settings :=
  Settings.load (sourcesAt d given) []

/-- Without settings files, everything has its default. -/
theorem settingsAt_eq_defaults {d : Disk}
    (h : sourceAt d settingsFile false = .unreadable false) :
    settingsAt d none = .ok Settings.defaults := by
  rw [settingsAt, sourcesAt, h]
  rfl

theorem textAt_of_read {d : Disk} {path : String} {t : Text}
    (h : d.read path.toList = .ok (utf8 t)) : textAt d path = .ok t := by
  rw [textAt, h]
  simp only [fromUTF8?_utf8, String.toList_ofList]

theorem sourceAt_of_read {d : Disk} {path t : Text} (h : d.read path = .ok (utf8 t))
    (required : Bool) : sourceAt d path required = .file t := by
  rw [sourceAt, h]
  simp only [sourceOf, fromUTF8?_utf8, String.toList_ofList]

/-- The message when a file cannot be read. -/
def cannotRead (path : String) (e : FileError) : String :=
  s!"Error reading file '{path}': {e.message}"

/-- The message when a file cannot be written. -/
def cannotWrite (path : Text) (e : FileError) : String :=
  s!"Error writing file '{String.ofList path}': {e.message}"

theorem runOn_readText (path : String) (next : Text → Script) (d : Disk) :
    (readText path next).runOn d = (Script.orFail (cannotRead path) (textAt d path) next).runOn d :=
  rfl

private theorem runOn_readSource (path : Text) (required : Bool) (next : Settings.Source → Script)
    (d : Disk) : (readSource path required next).runOn d =
      (next (sourceAt d path required)).runOn d := by
  unfold readSource sourceAt
  rw [Script.runOn]
  cases d.read path with
  | ok content => rfl
  | error e =>
    cases otherPath? path with
    | none => rfl
    | some other =>
      simp only [Script.runOn]
      cases d.read other <;> rfl

private theorem runOn_withSettings (given : Option String) (next : Settings → Script) (d : Disk) :
    (withSettings given next).runOn d =
      (Script.orFail (fun f => s!"Failed to load configuration: {describeFault f}")
        (settingsAt d given) next).runOn d := by
  rw [withSettings, runOn_readSource, settingsAt, sourcesAt]
  cases given with
  | none => simp only [loadSettings, Option.map_none, Option.toList_none]
  | some path => simp only [runOn_readSource, loadSettings, Option.map_some, Option.toList_some]

theorem runOn_writeFile_of_ok {d d' : Disk} {path : Text} {content : ByteArray}
    (h : d.write path content = .ok d') (next : Script) :
    (writeFile path content next).runOn d = next.runOn d' := by
  simp [writeFile, Script.runOn, h, Script.orFail]

theorem runOn_writeFile_of_error {d : Disk} {path : Text} {content : ByteArray} {e : FileError}
    (h : d.write path content = .error e) (next : Script) :
    (writeFile path content next).runOn d = .failed d (cannotWrite path e) := by
  rw [writeFile, Script.runOn, h]
  exact Script.runOn_orFail_error (cannotWrite path) e _ d

/-! ### Command lines -/

/-- What is reported about the log filter of the settings. -/
def filterReport (settings : Settings) : Text :=
  (Logging.warnings settings.logFilter.toList).flatMap (· ++ ['\n'])

private theorem runOn_reportFilter (settings : Settings) (next : Script) (d : Disk) :
    (reportFilter settings next).runOn d = (next.runOn d).warned (filterReport settings) := by
  unfold reportFilter filterReport
  induction Logging.warnings settings.logFilter.toList with
  | nil => rfl
  | cons line lines ih =>
    rw [List.foldr_cons, Script.runOn_warn, ih, List.flatMap_cons]
    simp [Outcome.warned]

/-- The settings of a run with its extra parameters, and the parameters for the format. -/
inductive Configures (d : Disk) (config : Option String) (extras : Table String) :
    Settings → Table String → Prop
  | intro {base settings : Settings} {others : Table String}
    (hload : settingsAt d config = .ok base)
    (hover : override base extras = .ok (settings, others)) :
    Configures d config extras settings others

/-- Without settings, a command line fails and leaves the disk as it is. -/
theorem configures_or_failed (m : Matches) (extras : Table String) (d : Disk) :
    (∃ settings others, Configures d m.config extras settings others) ∨
      ∃ line, (runMatches m extras).runOn d = .failed d line := by
  rw [runMatches, runOn_withSettings]
  cases hload : settingsAt d m.config with
  | error f => exact Or.inr ⟨_, Script.runOn_orFail_error _ f _ d⟩
  | ok base =>
    cases hover : override base extras with
    | error e =>
      refine Or.inr ⟨e.message, ?_⟩
      simp only [Script.orFail, hover]
      exact Script.runOn_fail _ d
    | ok changed => exact Or.inl ⟨changed.1, changed.2, .intro hload hover⟩

/-- A command line that does not list the formats comes down to its request. -/
theorem runOn_runMatches {m : Matches} {extras : Table String} {d : Disk} {settings : Settings}
    {others : Table String} (h : Configures d m.config extras settings others)
    (hlist : m.listFormats = false) :
    (runMatches m extras).runOn d =
      ((perform settings others m.request).runOn d).warned (filterReport settings) := by
  obtain ⟨hload, hover⟩ := h
  rw [runMatches, runOn_withSettings, hload]
  simp only [Script.orFail, hover, hlist, Bool.false_eq_true, if_false]
  rw [runOn_reportFilter]

/-- The script of words that can be read. -/
theorem script_of_readAs {words : List String} {m : Matches} {extras : Table String}
    (h : ReadAs words m extras) : script words = runMatches m extras := by
  obtain ⟨rest, hsplit, hmatch⟩ := h
  simp [script, hsplit, hmatch]

end ServiceCharter.Command

import ServiceCharter.Proofs.Command.Disk
import ServiceCharter.Proofs.Command.Running
import ServiceCharter.Proofs.Except
import ServiceCharter.Proofs.Format.Conversion

/-!
# What a conversion does

Many things can stop a conversion: the settings, the format of the file, its content, the document
in it, the target and its parameters. All of them come before anything is printed or written. Once
there is a text (`convertedAt`), what is left to do is to print it or to write it to a file
(`runOn_convertDetected`), and only the second can fail.

So a run that asks for a conversion has one effect or none (`convert_has_one_effect_or_none`). If it
fails then nothing is printed and the disk is as it was. Otherwise the text is printed, or it is in
the file, and then nothing is printed and no other file has changed. Where the text goes does not
change it (`runOn_of_serializes`).
-/

namespace ServiceCharter.Command

/-! ### The text of a conversion -/

/-- The message when the format of a file is neither given nor told by its name. -/
def undetected (input : String) : String :=
  s!"Error: Could not detect format from filename '{input}'\n" ++ "Please specify --from explicitly"

/-- What a conversion of a file makes of it, or the line that says why there is nothing. -/
def convertedAt (d : Disk) (settings : Settings) (parameters : Table String) (input : String)
    (source : Option String) (target : String) : Except String Text :=
  match source.or (Registry.builtin.detect? input.toList) with
  | none => .error (undetected input)
  | some format =>
    let known (name : String) : Except String Format :=
      (Registry.builtin.get name).mapError fun e => s!"Error: {e.message}"
    (known format).bind fun _ => (known target).bind fun _ =>
      ((textAt d input).mapError (cannotRead input)).bind fun raw =>
        ((Registry.builtin.read raw format).mapError ServiceError.message).bind fun doc =>
          (Registry.builtin.writeWith doc target
              (targetParameters settings parameters target)).mapError
            fun e => s!"Serialization error: {e.message}"

/-- A conversion prints or writes its text, or it fails before. -/
theorem runOn_convertDetected (d : Disk) (settings : Settings) (parameters : Table String)
    (input : String) (source : Option String) (target : String) (output : Option String) :
    (convertDetected settings parameters input source target output).runOn d =
      (Script.orFail id (convertedAt d settings parameters input source target)
        (writeResult output)).runOn d := by
  unfold convertDetected convertedAt
  cases source.or (Registry.builtin.detect? input.toList) with
  | none =>
    exact (Script.runOn_warn_fail _ _ d).trans (Script.runOn_orFail_error id _ _ d).symm
  | some format =>
    simp only [Script.orFail_bind, Script.orFail_mapError, convert]
    generalize Registry.builtin = registry
    cases registry.get format with
    | error e => rfl
    | ok _ =>
      cases registry.get target with
      | error e => rfl
      | ok _ => exact runOn_readText input _ d

/-- A conversion has a text if the format of the file is known and the file holds a document of this
format, which the target takes with the parameters. -/
theorem convertedAt_eq_ok_iff {d : Disk} {settings : Settings} {parameters : Table String}
    {input target : String} {source : Option String} {text : Text} :
    convertedAt d settings parameters input source target = .ok text ↔
      ∃ format raw doc, source.or (Registry.builtin.detect? input.toList) = some format ∧
        textAt d input = .ok raw ∧ Registry.builtin.read raw format = .ok doc ∧
        Registry.builtin.writeWith doc target (targetParameters settings parameters target) =
          .ok text := by
  unfold convertedAt
  cases source.or (Registry.builtin.detect? input.toList) with
  | none => simp
  | some format =>
    simp only [bind_eq_ok_iff, mapError_eq_ok_iff]
    constructor
    · rintro ⟨-, -, -, -, raw, htext, doc, hread, hwrite⟩
      exact ⟨format, raw, doc, rfl, htext, hread, hwrite⟩
    · rintro ⟨_, raw, doc, ⟨⟩, htext, hread, hwrite⟩
      -- What can be read and written has a name that is known.
      obtain ⟨f, hsource, -⟩ := Registry.read_eq_ok_iff.1 hread
      obtain ⟨g, htarget, -⟩ := Registry.writeWith_eq_ok_iff.1 hwrite
      exact ⟨f, hsource, g, htarget, raw, htext, doc, hread, hwrite⟩

/-! ### Effects -/

/-- A run fails and has no effect: nothing is printed, and the disk is as it was. -/
structure Stops (d : Disk) (o : Outcome) : Prop where
  code_ne_zero : o.code ≠ 0
  output_eq_nil : o.output = []
  disk_eq : o.disk = d

/-- A run ends well and delivers a text: it prints it, or leaves it in the file that is asked
for. -/
def Delivers (d : Disk) (output : Option String) (text : Text) (o : Outcome) : Prop :=
  o.code = 0 ∧
    match output with
    | none => o.output = text ∧ o.disk = d
    | some path => o.output = [] ∧ d.write path.toList (utf8 text) = .ok o.disk ∧
        o.disk.read path.toList = .ok (utf8 text)

variable {d : Disk} {output : Option String} {text : Text} {o : Outcome}

private theorem stops_failed (d : Disk) (line : String) : Stops d (.failed d line) :=
  ⟨Nat.one_ne_zero, rfl, rfl⟩

theorem Stops.warned (h : Stops d o) (t : Text) : Stops d (o.warned t) :=
  ⟨h.code_ne_zero, h.output_eq_nil, h.disk_eq⟩

theorem Delivers.warned (h : Delivers d output text o) (t : Text) :
    Delivers d output text (o.warned t) := h

/-- A file that is delivered is the only one that changes. -/
theorem Delivers.keepsOthers (h : Delivers d output text o) :
    ∀ path ∈ output, d.KeepsOthers o.disk path.toList := by
  rintro path rfl
  obtain ⟨-, -, hwrite, -⟩ := h
  exact Disk.keepsOthers_of_write hwrite

/-- A text is delivered, unless it is to go to a file that cannot be written. -/
private theorem writeResult_cases (d : Disk) (output : Option String) (text : Text) :
    Delivers d output text ((writeResult output text).runOn d) ∨
      (∃ path ∈ output, ¬d.Writable path.toList) ∧
        Stops d ((writeResult output text).runOn d) := by
  cases output with
  | none => exact Or.inl (by simp [Delivers, writeResult, Script.runOn])
  | some path =>
    cases hwrite : d.write path.toList (utf8 text) with
    | error e =>
      have hrun : (writeResult (some path) text).runOn d = .failed d (cannotWrite path.toList e) :=
        runOn_writeFile_of_error hwrite _
      rw [hrun]
      exact Or.inr ⟨⟨path, rfl, Disk.not_writable_of_write_eq_error hwrite⟩, stops_failed d _⟩
    | ok d' =>
      have hrun : (writeResult (some path) text).runOn d = ⟨0, [], [], d'⟩ :=
        runOn_writeFile_of_ok hwrite _
      rw [hrun]
      exact Or.inl ⟨rfl, rfl, hwrite, Disk.read_of_write hwrite⟩

theorem delivers_writeResult (houtput : ∀ path ∈ output, d.Writable path.toList) (text : Text) :
    Delivers d output text ((writeResult output text).runOn d) := by
  obtain hdelivers | ⟨⟨path, hpath, hclosed⟩, -⟩ := writeResult_cases d output text
  · exact hdelivers
  · exact absurd (houtput path hpath) hclosed

/-! ### Runs -/

/-- The file holds a document, and this is its text in the target format, with the settings and
parameters of the run. -/
inductive Serializes (d : Disk) (config : Option String) (extras : Table String) (input : String)
    (source : Option String) (target : String) (text : Text) : Prop
  | intro {settings : Settings} {others : Table String} {format : String} {raw : Text}
    {doc : Document} (hconf : Configures d config extras settings others)
    (hformat : source.or (Registry.builtin.detect? input.toList) = some format)
    (htext : textAt d input = .ok raw) (hread : Registry.builtin.read raw format = .ok doc)
    (hwrite : Registry.builtin.writeWith doc target (targetParameters settings others target) =
      .ok text)

section Runs

variable {config source : Option String} {extras : Table String} {input target : String}

/-- A run that has a text delivers it, wherever it is to go, behind the report on the log filter. -/
theorem runOn_of_serializes (h : Serializes d config extras input source target text) :
    ∃ t, ∀ output,
      (runMatches ⟨some (.convert input source target output), false, config⟩ extras).runOn d =
        ((writeResult output text).runOn d).warned t := by
  obtain @⟨settings, others, format, raw, doc, hconf, hformat, htext, hread, hwrite⟩ := h
  refine ⟨filterReport settings, fun output => ?_⟩
  rw [runOn_runMatches hconf rfl, perform, runOn_convertDetected,
    convertedAt_eq_ok_iff.2 ⟨format, raw, doc, hformat, htext, hread, hwrite⟩]
  rfl

/-- A run that has no text stops, wherever it was to go. -/
private theorem serializes_or_stops (d : Disk) (config : Option String) (extras : Table String)
    (input : String) (source : Option String) (target : String) (output : Option String) :
    (∃ text, Serializes d config extras input source target text) ∨
      Stops d ((runMatches ⟨some (.convert input source target output), false, config⟩
        extras).runOn d) := by
  obtain ⟨settings, others, hconf⟩ | ⟨line, hfailed⟩ :=
    configures_or_failed ⟨some (.convert input source target output), false, config⟩ extras d
  · cases hconverted : convertedAt d settings others input source target with
    | error line =>
      rw [runOn_runMatches hconf rfl, perform, runOn_convertDetected, hconverted,
        Script.runOn_orFail_error]
      exact Or.inr ((stops_failed d line).warned _)
    | ok text =>
      obtain ⟨format, raw, doc, hformat, htext, hread, hwrite⟩ :=
        convertedAt_eq_ok_iff.1 hconverted
      exact Or.inl ⟨text, .intro hconf hformat htext hread hwrite⟩
  · rw [hfailed]
    exact Or.inr (stops_failed d line)

/-- A run that has a text delivers it if it goes to the standard output. -/
theorem Serializes.delivers_none (h : Serializes d config extras input source target text) :
    Delivers d none text
      ((runMatches ⟨some (.convert input source target none), false, config⟩ extras).runOn d) := by
  obtain ⟨t, hrun⟩ := runOn_of_serializes h
  rw [hrun]
  exact (delivers_writeResult (by simp) text).warned t

end Runs

/-- The words ask for a conversion, or for nothing that can be done. To ask for help or for the
version is to ask for something else. -/
inductive AsksForConversion (words : List String) : Prop
  | request {input target : String} {source output config : Option String} {extras : Table String}
    (h : ReadAs words ⟨some (.convert input source target output), false, config⟩ extras)
  | refused {e : UsageError} (h : matchWithDefault (splitExtras words).1 = .error e)
    (hhelp : e ≠ .help) (hversion : e ≠ .version)

private theorem stops_reportUsage {e : UsageError} (hhelp : e ≠ .help) (hversion : e ≠ .version)
    (d : Disk) : Stops d ((reportUsage e).runOn d) := by
  have hreport : reportUsage e =
      Script.warn (s!"error: {e.message}\n\n{usage}".toList) (.exit 2) := by
    cases e <;> first | rfl | contradiction
  have hexit : Stops d ((Script.exit 2).runOn d) := ⟨Nat.succ_ne_zero 1, rfl, rfl⟩
  rw [hreport, Script.runOn_warn]
  exact hexit.warned _

/-- A run that asks for a conversion delivers the text that there is, or stops. -/
theorem stops_or_delivers {words : List String} (hwords : AsksForConversion words) (d : Disk) :
    Stops d ((script words).runOn d) ∨
      ∃ input source target output config extras text,
        ReadAs words ⟨some (.convert input source target output), false, config⟩ extras ∧
        Serializes d config extras input source target text ∧
        Delivers d output text ((script words).runOn d) := by
  cases hwords with
  | @refused e h hhelp hversion =>
    have hscript : script words = reportUsage e := by simp only [script, h]
    rw [hscript]
    exact Or.inl (stops_reportUsage hhelp hversion d)
  | @request input target source output config extras hread =>
    rw [script_of_readAs hread]
    obtain ⟨text, htext⟩ | hstops := serializes_or_stops d config extras input source target output
    · obtain ⟨t, hrun⟩ := runOn_of_serializes htext
      rw [hrun]
      -- Only to write the text can still go wrong.
      obtain hdelivers | ⟨-, hstops⟩ := writeResult_cases d output text
      · exact Or.inr ⟨input, source, target, output, config, extras, text, hread, htext,
          hdelivers.warned t⟩
      · exact Or.inl (hstops.warned t)
    · exact Or.inl hstops

/-- **A conversion has one effect or none.** If the run fails then nothing is printed and every file
is as it was. Otherwise the file that is converted has a text in the target format. Without an
output file, this text is printed and every file is as it was. With one, nothing is printed, the
file holds the text, every other file is as it was, and the text is what the same request without
an output file prints, in whatever words it is made. -/
theorem convert_has_one_effect_or_none {words : List String} (hwords : AsksForConversion words)
    (d : Disk) {o : Outcome} (ho : (script words).runOn d = o) :
    (o.code ≠ 0 → o.output = [] ∧ o.disk = d) ∧
    (o.code = 0 → ∃ input source target output config extras text,
      ReadAs words ⟨some (.convert input source target output), false, config⟩ extras ∧
      Serializes d config extras input source target text ∧
      Delivers d output text o ∧ (∀ path ∈ output, d.KeepsOthers o.disk path.toList) ∧
      Delivers d none text
        ((runMatches ⟨some (.convert input source target none), false, config⟩ extras).runOn d) ∧
      ∀ words', ReadAs words' ⟨some (.convert input source target none), false, config⟩ extras →
        Delivers d none text ((script words').runOn d)) := by
  subst ho
  obtain hstops | ⟨input, source, target, output, config, extras, text, hread, htext, hdelivers⟩ :=
    stops_or_delivers hwords d
  · exact ⟨fun _ => ⟨hstops.output_eq_nil, hstops.disk_eq⟩,
      fun hcode => absurd hcode hstops.code_ne_zero⟩
  · refine ⟨fun hcode => absurd hdelivers.1 hcode, fun _ => ?_⟩
    refine ⟨input, source, target, output, config, extras, text, hread, htext, hdelivers,
      hdelivers.keepsOthers, htext.delivers_none, fun words' hread' => ?_⟩
    rw [script_of_readAs hread']
    exact htext.delivers_none

/-- A disk with a document. -/
def documentDisk : Disk := ⟨[("d.md", .file (utf8 "- **um**".toList))]⟩

/-- The words of a conversion without the name of the command, with an extra parameter. -/
def documentWords : List String := ["d.md", "--extra-title", "A", "--to", "text"]

private theorem serializes_documentDisk : Serializes documentDisk none
    [("title", "A")] "d.md" none "text" "um".toList := by
  have hload : settingsAt documentDisk none = .ok Settings.defaults :=
    settingsAt_eq_defaults (by decide)
  have hover : override Settings.defaults [("title", "A")] =
      .ok ({ Settings.defaults with page.title := "A" }, []) := rfl
  have hformat : (none : Option String).or (Registry.builtin.detect? "d.md".toList) =
      some "markdown" := by decide
  have hwrite : Registry.builtin.writeWith ⟨"- **um**".toList⟩ "text" [] = .ok "um".toList := by
    decide
  exact .intro (.intro hload hover) hformat (textAt_of_read rfl) rfl hwrite

/-- What is printed without an output file is in the file that is given. -/
theorem convert_has_one_effect_on_documentDisk :
    AsksForConversion (documentWords ++ ["-o", "t.txt"]) ∧
      ∃ o p, (script (documentWords ++ ["-o", "t.txt"])).runOn documentDisk = o ∧
        (script documentWords).runOn documentDisk = p ∧ o.code = 0 ∧ p.code = 0 ∧
        o.output = [] ∧ o.disk.read "t.txt".toList = .ok (utf8 p.output) ∧
        documentDisk.KeepsOthers o.disk "t.txt".toList ∧ p.disk = documentDisk := by
  have hwith : ReadAs (documentWords ++ ["-o", "t.txt"])
      ⟨some (.convert "d.md" none "text" (some "t.txt")), false, none⟩ [("title", "A")] :=
    .intro ["d.md", "--to", "text", "-o", "t.txt"] (by decide) rfl
  have hwithout : ReadAs documentWords ⟨some (.convert "d.md" none "text" none), false, none⟩
      [("title", "A")] := .intro ["d.md", "--to", "text"] (by decide) rfl
  have hwritable : documentDisk.Writable "t.txt".toList := ⟨.empty, _, rfl⟩
  have hcode : ((script (documentWords ++ ["-o", "t.txt"])).runOn documentDisk).code = 0 := by
    obtain ⟨t, hrun⟩ := runOn_of_serializes serializes_documentDisk
    rw [script_of_readAs hwith, hrun]
    exact (delivers_writeResult (by simpa using hwritable) _).1
  obtain ⟨input, source, target, output, config, extras, text, hread, -, hdelivers, hkeeps, -,
    hprints⟩ := (convert_has_one_effect_or_none (.request hwith) documentDisk rfl).2 hcode
  obtain ⟨hm, rfl⟩ := hread.unique hwith
  cases hm
  obtain ⟨-, houtput, -, hfile⟩ := hdelivers
  obtain ⟨hprinted, htext, hdisk⟩ := hprints documentWords hwithout
  refine ⟨.request hwith, _, _, rfl, rfl, hcode, hprinted, houtput, ?_, hkeeps _ rfl, hdisk⟩
  rw [htext]
  exact hfile

end ServiceCharter.Command

import ServiceCharter.Proofs.Command.Conversion
import ServiceCharter.Proofs.Command.Export
import ServiceCharter.Proofs.Command.Words

/-!
# Exports and conversions of one reply

The same reply can be converted to markup or plain text and printed, or exported into files. The
conversion goes through the registry of formats and the export through a session, and they have to
agree (`export_agrees_with_convert`): what is wrong with the reply is reported with the same words
by all three runs, and if nothing is, the files hold what the conversions print. They differ only
about a document without content, which is printed, but not exported.
-/

namespace ServiceCharter.Command

/-- A conversion from a reply prints what the target makes of the document, or reports what is wrong
with the reply. -/
theorem runOn_convertDetected_json {d : Disk} {input target : String} {raw : Text}
    (htext : textAt d input = .ok raw) (settings : Settings) {f : Format} {w : Document → Text}
    (hget : Registry.builtin.get target = .ok f)
    (hwrite : ∀ doc, Registry.builtin.writeWith doc target (targetParameters settings [] target) =
      .ok (w doc)) :
    (convertDetected settings [] input (some "json") target none).runOn d =
      match Format.json.read raw with
      | .error e => .failed d e.message
      | .ok doc => ⟨0, w doc, [], d⟩ := by
  have hjson : Registry.builtin.get "json" = .ok .json := rfl
  have hread : Registry.builtin.read raw "json" = Format.json.read raw := rfl
  have hconverted : convertedAt d settings [] input (some "json") target =
      ((Format.json.read raw).mapError ServiceError.message).map w := by
    simp only [convertedAt, Option.some_or, hjson, hget, htext, Except.mapError, Except.bind, hread,
      hwrite]
    cases Format.json.read raw <;> rfl
  rw [runOn_convertDetected, hconverted]
  cases Format.json.read raw with
  | error e => exact Script.runOn_fail _ d
  | ok doc => simp [Except.map, Except.mapError, Script.orFail, writeResult, Script.runOn]

private theorem override_nil (settings : Settings) : override settings [] = .ok (settings, []) :=
    rfl

section Runs

variable {d : Disk} {words : List String} {config : Option String} {input folder : String}
  {raw : Text} {settings : Settings}

private theorem runOn_of_readAs {request : Request}
    (hwords : ReadAs words ⟨some request, false, config⟩ [])
    (hload : settingsAt d config = .ok settings) :
    (script words).runOn d =
      ((perform settings [] (some request)).runOn d).warned (filterReport settings) := by
  rw [script_of_readAs hwords, runOn_runMatches (.intro hload (override_nil settings)) rfl]

/-- What a conversion of a reply does that prints what the target makes of the document. -/
private theorem runOn_convert {target : String} {f : Format} {w : Document → Text}
    (hwords : ReadAs words ⟨some (.convert input (some "json") target none), false, config⟩ [])
    (htext : textAt d input = .ok raw) (hload : settingsAt d config = .ok settings)
    (hget : Registry.builtin.get target = .ok f)
    (hwrite : ∀ doc, Registry.builtin.writeWith doc target (targetParameters settings [] target) =
      .ok (w doc)) :
    (script words).runOn d =
      (match Format.json.read raw with
        | .error e => Outcome.failed d e.message
        | .ok doc => ⟨0, w doc, [], d⟩).warned (filterReport settings) := by
  rw [runOn_of_readAs hwords hload, perform, runOn_convertDetected_json htext settings hget hwrite]

private theorem exportedAt_of_textAt (htext : textAt d input = .ok raw)
    (hblank : Text.allBlank raw = false) :
    exportedAt d input =
      match Format.json.read raw with
      | .error e => .error e.message
      | .ok doc => if doc.isEmpty then .error Session.noDownload else .ok doc := by
  rw [exportedAt, htext]
  simp only [downloadable, hblank, Bool.false_eq_true, if_false]
  cases Format.json.read raw with
  | error e => rfl
  | ok doc =>
    simp only []
    cases doc.isEmpty with
    | true => rfl
    | false => rfl

/-- **An export leaves in its files what the conversions print.** For a reply in a readable file,
compare its export with its conversions to markup and to plain text. The conversions fail together,
and then the export fails too and all three report the same and change nothing. If the document has
no content then the export is refused and changes nothing. And otherwise, if both files can be
written and are different, they hold what the conversions print. -/
theorem export_agrees_with_convert {toFiles toMarkdown toText : List String}
    (hfiles : ReadAs toFiles ⟨some (.export input folder), false, config⟩ [])
    (hmarkdown : ReadAs toMarkdown
      ⟨some (.convert input (some "json") "markdown" none), false, config⟩ [])
    (hplain : ReadAs toText ⟨some (.convert input (some "json") "text" none), false, config⟩ [])
    (htext : textAt d input = .ok raw) (hblank : Text.allBlank raw = false)
    (hload : settingsAt d config = .ok settings) {e m t : Outcome}
    (he : (script toFiles).runOn d = e) (hm : (script toMarkdown).runOn d = m)
    (ht : (script toText).runOn d = t) :
    (m.code ≠ 0 ↔ t.code ≠ 0) ∧
    (m.code ≠ 0 → (e.code = 1 ∧ m.code = 1 ∧ t.code = 1) ∧
      (e.errors = m.errors ∧ t.errors = m.errors) ∧ e.disk = d ∧ m.disk = d ∧ t.disk = d) ∧
    (m.code = 0 → m.output = [] → e.code = 1 ∧
      e.errors = m.errors ++ (Session.noDownload.toList ++ ['\n']) ∧ e.disk = d) ∧
    (m.code = 0 → m.output ≠ [] → d.Writable (markdownPath settings folder) →
      d.Writable (plainPath settings folder) →
      ¬d.SameFile (markdownPath settings folder) (plainPath settings folder) →
      e.code = 0 ∧ e.disk.read (markdownPath settings folder) = .ok (utf8 m.output) ∧
        e.disk.read (plainPath settings folder) = .ok (utf8 t.output)) := by
  rw [runOn_of_readAs hfiles hload, perform] at he
  rw [runOn_convert (f := .markdown) (w := Document.source) hmarkdown htext hload rfl
    fun doc => rfl] at hm
  rw [runOn_convert (f := .plain) (w := Document.plainText) hplain htext hload rfl
    fun doc => rfl] at ht
  have hexported := exportedAt_of_textAt htext hblank
  subst he hm ht
  cases hread : Format.json.read raw with
  | error e =>
    rw [hread] at hexported
    rw [runOn_exportReply_of_error hexported]
    simp
  | ok doc =>
    rw [hread] at hexported
    cases hempty : doc.isEmpty with
    | true =>
      have hnone : exportedAt d input = .error Session.noDownload := by
        simpa [hempty] using hexported
      have hsource : doc.source = [] := List.isEmpty_iff.1 hempty
      rw [runOn_exportReply_of_error hnone]
      simp [Outcome.warned, Outcome.failed, hsource]
    | false =>
      have hdoc : exportedAt d input = .ok doc := by simpa [hempty] using hexported
      have hsource : doc.source ≠ [] := fun hnil => by
        rw [Document.isEmpty, hnil] at hempty
        cases hempty
      simp only [Outcome.code_warned, Outcome.disk_warned, Outcome.output_warned]
      refine ⟨by simp, fun hcode => absurd rfl hcode, fun _ hnil => absurd hnil hsource, ?_⟩
      intro _ _ hfirst hsecond hne
      obtain ⟨d₁, d₂, hwrite, hwrite', hcode, hdisk⟩ := exportReply_of_writable hdoc hfirst hsecond
      rw [hdisk]
      exact ⟨hcode, Disk.read_of_write_of_write hwrite hwrite' hne, Disk.read_of_write hwrite'⟩

end Runs

/-- The export and the conversions of a reply with one field, with the settings as they are. -/
theorem export_agrees_with_convert_on_replyDisk :
    ∃ e m t, (script (exportWords none "r.json" ".")).runOn replyDisk = e ∧
      (script (convertWords none "r.json" "json" "markdown")).runOn replyDisk = m ∧
      (script (convertWords none "r.json" "json" "text")).runOn replyDisk = t ∧
      m.code = 0 ∧ m.output = sampleDocument.source ∧ e.code = 0 ∧
      e.disk.read "./descricao_servico.md".toList = .ok (utf8 m.output) ∧
      e.disk.read "./descricao_servico.txt".toList = .ok (utf8 t.output) := by
  have hconfig : ∀ path ∈ (none : Option String), Plain path := by simp
  have hinput : Plain "r.json" := by decide
  have hfiles : ReadAs (exportWords none "r.json" ".") ⟨some (.export "r.json" "."), false, none⟩
      [] := readAs_exportWords hconfig hinput (by decide)
  have hmarkdown : ReadAs (convertWords none "r.json" "json" "markdown")
      ⟨some (.convert "r.json" (some "json") "markdown" none), false, none⟩ [] :=
    readAs_convertWords hconfig hinput (by decide) (by decide)
  have hplain : ReadAs (convertWords none "r.json" "json" "text")
      ⟨some (.convert "r.json" (some "json") "text" none), false, none⟩ [] :=
    readAs_convertWords hconfig hinput (by decide) (by decide)
  have hfirst : replyDisk.Writable "./descricao_servico.md".toList := ⟨.empty, _, rfl⟩
  have hsecond : replyDisk.Writable "./descricao_servico.txt".toList := ⟨.empty, _, rfl⟩
  have hne : ¬replyDisk.SameFile "./descricao_servico.md".toList
      "./descricao_servico.txt".toList := by
    rintro ⟨key, hfirst, hsecond⟩
    have hkeys : (Except.ok "descricao_servico.md" : Except FileError String) =
        .ok "descricao_servico.txt" := hfirst.trans hsecond.symm
    exact absurd (Except.ok.inj hkeys) (by decide)
  have hm := runOn_convert (f := .markdown) (w := Document.source) hmarkdown textAt_replyDisk
    settingsAt_replyDisk rfl fun doc => rfl
  rw [read_sampleReply] at hm
  have hcode :
      ((script (convertWords none "r.json" "json" "markdown")).runOn replyDisk).code = 0 := by
    rw [hm]
    rfl
  have houtput :
      ((script (convertWords none "r.json" "json" "markdown")).runOn replyDisk).output =
        sampleDocument.source := by
    rw [hm]
    rfl
  have hagree := export_agrees_with_convert hfiles hmarkdown hplain textAt_replyDisk (by decide)
    settingsAt_replyDisk rfl rfl rfl
  have hdisk := hagree.2.2.2 hcode (by rw [houtput]; decide) hfirst hsecond hne
  exact ⟨_, _, _, rfl, rfl, rfl, hcode, houtput, hdisk⟩

end ServiceCharter.Command

import Mathlib.Data.List.Basic
import ServiceCharter.Proofs.Command.Disk
import ServiceCharter.Proofs.Command.Running
import ServiceCharter.Proofs.Format.Conversion

/-!
# What an export leaves on the disk

Both downloads are made before the first is written, so whatever is wrong with the input or the
reply leaves the disk as it is. Then the document is written, and then its plain text. An export
that ends well leaves both; one that fails has written nothing, unless it is the second of the two
files that cannot be written (`export_writes_both_or_stops`).

Nothing keeps the two names apart. If they lead to the same file then the plain text, which is
written last, is what remains.
-/

namespace ServiceCharter.Command

/-! ### The document of an export -/

/-- The document that is offered for a reply, or why there is none. -/
def downloadable (raw : Text) : Except ServiceError Document :=
  if Text.allBlank raw then .error (.rejectedInput Session.blankInput)
  else
    match Format.json.read raw with
    | .error e => .error e
    | .ok doc => if doc.isEmpty then .error (.noDocument Session.noDownload) else .ok doc

private theorem documentOr_set (s : Session) (doc : Document) (message : String) :
    (s.set doc).documentOr message =
      if doc.isEmpty then .error (.noDocument message) else .ok doc := by
  unfold Session.documentOr Session.get? Session.set
  cases hempty : doc.isEmpty <;> simp [Option.filter, hempty]

/-- A session goes through submission and reply, but offers no more than the document of the
reply. -/
private theorem downloads_eq (names : DownloadSettings) (raw : Text) :
    downloads names raw = (downloadable raw).map fun doc =>
      (.markdown names.markdownFileName doc, .plain names.textFileName doc) := by
  unfold downloads downloadable Session.submit
  cases Text.allBlank raw with
  | true => rfl
  | false =>
    simp only [Bool.false_eq_true, if_false, Session.receiveRaw, Format.json]
    cases Reply.parse raw with
    | error e => rfl
    | ok reply =>
      simp only [Session.receive, Except.bind]
      cases reply.fields? with
      | error e => rfl
      | ok values =>
        simp only [Session.markdown, Session.plain, documentOr_set, Except.map]
        cases values.compile.isEmpty <;> rfl

private theorem downloadable_eq_ok_iff {raw : Text} {doc : Document} :
    downloadable raw = .ok doc ↔
      Text.allBlank raw = false ∧ Format.json.read raw = .ok doc ∧ doc.isEmpty = false := by
  unfold downloadable
  cases Text.allBlank raw with
  | true => simp
  | false =>
    cases Format.json.read raw with
    | error e => simp
    | ok doc' =>
      cases hempty : doc'.isEmpty with
      | true =>
        simp only [Bool.false_eq_true, if_false, hempty, if_true, reduceCtorEq, false_iff]
        rintro ⟨-, hdoc, hne⟩
        cases hdoc
        rw [hempty] at hne
        cases hne
      | false =>
        simp only [Bool.false_eq_true, if_false, hempty, true_and, Except.ok.injEq]
        exact ⟨fun hdoc => ⟨hdoc, hdoc ▸ hempty⟩, And.left⟩

/-- The document that is exported for a file, or the line that says why there is none. -/
def exportedAt (d : Disk) (input : String) : Except String Document :=
  match textAt d input with
  | .error e => .error (cannotRead input e)
  | .ok raw => (downloadable raw).mapError ServiceError.message

/-- The file holds a successful reply, and this is its document; it has content. -/
structure Exports (d : Disk) (input : String) (doc : Document) : Prop where
  reply : ∃ raw reply, textAt d input = .ok raw ∧ Reply.parse raw = .ok reply ∧
    reply.success = true ∧ doc = reply.fields.compile
  content : doc.isEmpty = false

private theorem exports_of_exportedAt {d : Disk} {input : String} {doc : Document}
    (h : exportedAt d input = .ok doc) : Exports d input doc := by
  unfold exportedAt at h
  cases htext : textAt d input with
  | error e => simp [htext] at h
  | ok raw =>
    simp only [htext] at h
    cases hdoc : downloadable raw with
    | error e => simp [hdoc, Except.mapError] at h
    | ok doc' =>
      obtain rfl : doc' = doc := by simpa [hdoc, Except.mapError] using h
      obtain ⟨-, hread, hempty⟩ := downloadable_eq_ok_iff.1 hdoc
      obtain ⟨reply, hparse, hsuccess, hcompile⟩ := Format.json_read_eq_ok_iff.1 hread
      exact ⟨⟨raw, reply, htext, hparse, hsuccess, hcompile⟩, hempty⟩

/-! ### Writing the downloads -/

/-- Where the document is written. -/
def markdownPath (settings : Settings) (folder : String) : Text :=
  joinPath folder.toList settings.downloads.markdownFileName.toList

/-- Where the plain text is written. -/
def plainPath (settings : Settings) (folder : String) : Text :=
  joinPath folder.toList settings.downloads.textFileName.toList

/-- The outcome with a text in front of what is written to the standard output. -/
def Outcome.printed (o : Outcome) (t : Text) : Outcome := { o with output := t ++ o.output }

@[simp] theorem Outcome.code_printed (o : Outcome) (t : Text) : (o.printed t).code = o.code := rfl

@[simp] theorem Outcome.disk_printed (o : Outcome) (t : Text) : (o.printed t).disk = o.disk := rfl

/-- The line that reports a download. -/
def downloadLine (path : Text) (mediaType : String) : Text :=
  path ++ [' ', '('] ++ mediaType.toList ++ [')'] ++ ['\n']

private theorem runOn_writeDownload_of_ok {d d' : Disk} {folder : String} {a : Download}
    (h : d.write (joinPath folder.toList a.fileName.toList) a.bytes = .ok d') (next : Script) :
    (writeDownload folder a next).runOn d = (next.runOn d').printed
      (downloadLine (joinPath folder.toList a.fileName.toList) a.mediaType) := by
  rw [writeDownload, runOn_writeFile_of_ok h]
  rfl

private theorem runOn_writeDownload_of_error {d : Disk} {folder : String} {a : Download}
    {e : FileError}
    (h : d.write (joinPath folder.toList a.fileName.toList) a.bytes = .error e) (next : Script) :
    (writeDownload folder a next).runOn d =
      .failed d (cannotWrite (joinPath folder.toList a.fileName.toList) e) :=
  runOn_writeFile_of_error h _

/-- An export writes both downloads of its document, or reports why there is none. -/
theorem runOn_exportReply (settings : Settings) (input folder : String) (d : Disk) :
    (exportReply settings input folder).runOn d =
      (Script.orFail id (exportedAt d input) fun doc =>
        writeDownload folder (.markdown settings.downloads.markdownFileName doc)
          (writeDownload folder (.plain settings.downloads.textFileName doc) (.exit 0))).runOn
        d := by
  rw [exportReply, runOn_readText, exportedAt]
  cases textAt d input with
  | error e => rfl
  | ok raw =>
    simp only [Script.orFail, downloads_eq]
    cases downloadable raw <;> rfl

theorem runOn_exportReply_of_error {d : Disk} {input line : String}
    (h : exportedAt d input = .error line) (settings : Settings) (folder : String) :
    (exportReply settings input folder).runOn d = .failed d line := by
  rw [runOn_exportReply, h]
  exact Script.runOn_orFail_error id line _ d

private theorem runOn_exportReply_of_ok {d : Disk} {input : String} {doc : Document}
    (h : exportedAt d input = .ok doc) (settings : Settings) (folder : String) :
    (exportReply settings input folder).runOn d =
      (writeDownload folder (.markdown settings.downloads.markdownFileName doc)
        (writeDownload folder (.plain settings.downloads.textFileName doc) (.exit 0))).runOn d := by
  rw [runOn_exportReply, h]
  rfl

/-- An export of a document fails before it has written anything, or between the two files, or it
writes both. -/
theorem exportReply_cases {d : Disk} {input : String} {doc : Document}
    (h : exportedAt d input = .ok doc) (settings : Settings) (folder : String) :
    (∃ e, d.write (markdownPath settings folder) (utf8 doc.source) = .error e ∧
      (exportReply settings input folder).runOn d =
        .failed d (cannotWrite (markdownPath settings folder) e)) ∨
    ∃ d₁, d.write (markdownPath settings folder) (utf8 doc.source) = .ok d₁ ∧
      ((∃ e, d₁.write (plainPath settings folder) (utf8 doc.plainText) = .error e ∧
        (exportReply settings input folder).runOn d =
          (Outcome.failed d₁ (cannotWrite (plainPath settings folder) e)).printed
            (downloadLine (markdownPath settings folder) Download.markdownMediaType)) ∨
      ∃ d₂, d₁.write (plainPath settings folder) (utf8 doc.plainText) = .ok d₂ ∧
        (exportReply settings input folder).runOn d = ⟨0,
          downloadLine (markdownPath settings folder) Download.markdownMediaType ++
            downloadLine (plainPath settings folder) Download.plainMediaType, [], d₂⟩) := by
  rw [runOn_exportReply_of_ok h]
  cases hfirst : d.write (markdownPath settings folder) (utf8 doc.source) with
  | error e => exact Or.inl ⟨e, rfl, runOn_writeFile_of_error hfirst _⟩
  | ok d₁ =>
    refine Or.inr ⟨d₁, rfl, ?_⟩
    rw [runOn_writeDownload_of_ok (a := .markdown settings.downloads.markdownFileName doc) hfirst]
    cases hsecond : d₁.write (plainPath settings folder) (utf8 doc.plainText) with
    | error e =>
      refine Or.inl ⟨e, rfl, ?_⟩
      rw [runOn_writeDownload_of_error (a := .plain settings.downloads.textFileName doc) hsecond]
      rfl
    | ok d₂ =>
      refine Or.inr ⟨d₂, rfl, ?_⟩
      rw [runOn_writeDownload_of_ok (a := .plain settings.downloads.textFileName doc) hsecond]
      simp [Outcome.printed, Script.runOn, Download.markdown, Download.plain, Download.ofText,
        markdownPath, plainPath]

/-- An export of a document ends well if both files can be written. -/
theorem exportReply_of_writable {d : Disk} {input folder : String} {doc : Document}
    {settings : Settings} (h : exportedAt d input = .ok doc)
    (hfirst : d.Writable (markdownPath settings folder))
    (hsecond : d.Writable (plainPath settings folder)) :
    ∃ d₁ d₂, d.write (markdownPath settings folder) (utf8 doc.source) = .ok d₁ ∧
      d₁.write (plainPath settings folder) (utf8 doc.plainText) = .ok d₂ ∧
      ((exportReply settings input folder).runOn d).code = 0 ∧
      ((exportReply settings input folder).runOn d).disk = d₂ := by
  rcases exportReply_cases h settings folder with
    ⟨e, hwrite, -⟩ | ⟨d₁, hwrite, ⟨e, hwrite', -⟩ | ⟨d₂, hwrite', hrun⟩⟩
  · exact absurd hfirst (Disk.not_writable_of_write_eq_error hwrite)
  · rw [← Disk.writable_iff_of_write hwrite] at hsecond
    exact absurd hsecond (Disk.not_writable_of_write_eq_error hwrite')
  · exact ⟨d₁, d₂, hwrite, hwrite', by rw [hrun], by rw [hrun]⟩

/-! ### All or nothing -/

/-- **An export writes both downloads, or none unless the second cannot be written.** A run that
fails leaves the disk as it was; only if the plain text is what cannot be written, the document has
been written before. A run that ends well leaves the plain text, and the document too if the names
do not lead to the same file. -/
theorem export_writes_both_or_stops {words : List String} {extras : Table String}
    {config : Option String} {input folder : String}
    (hwords : ReadAs words ⟨some (.export input folder), false, config⟩ extras) (d : Disk)
    {o : Outcome} (ho : (script words).runOn d = o) :
    (o.code ≠ 0 → o.disk = d ∨
      ∃ settings others doc, Configures d config extras settings others ∧ Exports d input doc ∧
        d.write (markdownPath settings folder) (utf8 doc.source) = .ok o.disk ∧
        ¬d.Writable (plainPath settings folder)) ∧
    (o.code = 0 →
      ∃ settings others doc, Configures d config extras settings others ∧ Exports d input doc ∧
        o.disk.read (plainPath settings folder) = .ok (utf8 doc.plainText) ∧
        (¬d.SameFile (markdownPath settings folder) (plainPath settings folder) →
          o.disk.read (markdownPath settings folder) = .ok (utf8 doc.source))) := by
  subst ho
  rw [script_of_readAs hwords]
  rcases configures_or_failed ⟨some (.export input folder), false, config⟩ extras d with
    ⟨settings, others, hconf⟩ | ⟨line, hfail⟩
  · rw [runOn_runMatches hconf rfl]
    simp only [perform, Outcome.code_warned, Outcome.disk_warned]
    cases hdoc : exportedAt d input with
    | error line => simp [runOn_exportReply_of_error hdoc]
    | ok doc =>
      have hexports := exports_of_exportedAt hdoc
      rcases exportReply_cases hdoc settings folder with
        ⟨e, -, hrun⟩ | ⟨d₁, hfirst, ⟨e, hsecond, hrun⟩ | ⟨d₂, hsecond, hrun⟩⟩
      · simp [hrun]
      · -- The document is on the disk, and the plain text could not have been written before.
        have hunwritable : ¬d.Writable (plainPath settings folder) := by
          rw [← Disk.writable_iff_of_write hfirst]
          exact Disk.not_writable_of_write_eq_error hsecond
        simp only [hrun, Outcome.code_printed, Outcome.code_failed, Outcome.disk_printed,
          Outcome.disk_failed]
        exact ⟨fun _ => Or.inr ⟨settings, others, doc, hconf, hexports, hfirst, hunwritable⟩,
          fun hcode => absurd hcode Nat.one_ne_zero⟩
      · simp only [hrun]
        exact ⟨fun hcode => absurd rfl hcode, fun _ => ⟨settings, others, doc, hconf, hexports,
          Disk.read_of_write hsecond, Disk.read_of_write_of_write hfirst hsecond⟩⟩
  · simp [hfail]

/-- A reply with one field. -/
def sampleReply : Text := "\x7b\"custo\":\"5\"\x7d".toList

/-- The document of the reply. -/
def sampleDocument : Document := ⟨"## Custo\n\n5".toList⟩

/-- A disk with the reply. -/
def replyDisk : Disk := ⟨[("r.json", .file (utf8 sampleReply))]⟩

theorem settingsAt_replyDisk : settingsAt replyDisk none = .ok Settings.defaults :=
  settingsAt_eq_defaults (by decide)

theorem textAt_replyDisk : textAt replyDisk "r.json" = .ok sampleReply := textAt_of_read rfl

theorem read_sampleReply : Format.json.read sampleReply = .ok sampleDocument := by
  have hparse : Reply.parse sampleReply =
      .ok (.succeeded (.object [("custo", .string "5")])) := by decide +kernel
  exact Format.json_read_eq_ok_iff.2 ⟨_, hparse, rfl, by decide⟩

private theorem exportedAt_replyDisk : exportedAt replyDisk "r.json" = .ok sampleDocument := by
  have hdoc : downloadable sampleReply = .ok sampleDocument :=
    downloadable_eq_ok_iff.2 ⟨by decide, read_sampleReply, rfl⟩
  rw [exportedAt, textAt_replyDisk]
  simp only [hdoc, Except.mapError]

private theorem runOn_replyDisk {words : List String} {extras others : Table String}
    {settings : Settings} (hwords : ReadAs words ⟨some (.export "r.json" "."), false, none⟩ extras)
    (hover : override Settings.defaults extras = .ok (settings, others)) :
    (script words).runOn replyDisk =
      ((writeDownload "." (.markdown settings.downloads.markdownFileName sampleDocument)
        (writeDownload "." (.plain settings.downloads.textFileName sampleDocument)
          (.exit 0))).runOn replyDisk).warned (filterReport settings) := by
  rw [script_of_readAs hwords, runOn_runMatches (.intro settingsAt_replyDisk hover) rfl]
  simp only [perform]
  rw [runOn_exportReply_of_ok exportedAt_replyDisk]

/-- An export with a name of its own for the document. -/
theorem export_of_replyDisk :
    ReadAs ["export", "r.json", "--extra-md-name", "a"]
      ⟨some (.export "r.json" "."), false, none⟩ [("md-name", "a")] ∧
    ((script ["export", "r.json", "--extra-md-name", "a"]).runOn replyDisk).code = 0 ∧
    ∃ settings others doc, Configures replyDisk none [("md-name", "a")] settings others ∧
      Exports replyDisk "r.json" doc ∧
      ((script ["export", "r.json", "--extra-md-name", "a"]).runOn replyDisk).disk.read
        (plainPath settings ".") = .ok (utf8 doc.plainText) ∧
      (¬replyDisk.SameFile (markdownPath settings ".") (plainPath settings ".") →
        ((script ["export", "r.json", "--extra-md-name", "a"]).runOn replyDisk).disk.read
          (markdownPath settings ".") = .ok (utf8 doc.source)) := by
  have hwords : ReadAs ["export", "r.json", "--extra-md-name", "a"]
      ⟨some (.export "r.json" "."), false, none⟩ [("md-name", "a")] :=
    .intro ["export", "r.json"] (by decide) rfl
  have hcode :
      ((script ["export", "r.json", "--extra-md-name", "a"]).runOn replyDisk).code = 0 := by
    rw [runOn_replyDisk hwords rfl]
    rfl
  exact ⟨hwords, hcode, (export_writes_both_or_stops hwords replyDisk rfl).2 hcode⟩

/-- Two exports that are neither all nor nothing: the document is written although the folder for
the plain text is missing and the export fails; and the document is lost although the export ends
well, because both names are the same. -/
theorem export_not_all_or_nothing :
    (∃ o, (script ["export", "r.json", "--extra-txt-name", "x/y"]).runOn replyDisk = o ∧
      o.code = 1 ∧ replyDisk.read "./descricao_servico.md".toList = .error .missing ∧
      o.disk.read "./descricao_servico.md".toList = .ok (utf8 sampleDocument.source)) ∧
    ∃ o, (script ["export", "r.json", "--extra-md-name", "a", "--extra-txt-name", "a"]).runOn
        replyDisk = o ∧
      o.code = 0 ∧ o.disk.read "./a".toList = .ok (utf8 sampleDocument.plainText) ∧
      o.disk.read "./a".toList ≠ .ok (utf8 sampleDocument.source) := by
  have hpartial : ReadAs ["export", "r.json", "--extra-txt-name", "x/y"]
      ⟨some (.export "r.json" "."), false, none⟩ [("txt-name", "x/y")] :=
    .intro ["export", "r.json"] (by decide) rfl
  have hcollision :
      ReadAs ["export", "r.json", "--extra-md-name", "a", "--extra-txt-name", "a"]
        ⟨some (.export "r.json" "."), false, none⟩ [("md-name", "a"), ("txt-name", "a")] :=
    .intro ["export", "r.json"] (by decide) rfl
  refine ⟨⟨_, runOn_replyDisk hpartial rfl, rfl, rfl, rfl⟩,
    ⟨_, runOn_replyDisk hcollision rfl, rfl, rfl, ?_⟩⟩
  intro hsame
  have hread : (Except.ok (utf8 sampleDocument.plainText) : Except FileError ByteArray) =
      .ok (utf8 sampleDocument.source) := hsame
  have hbytes := congrArg String.fromUTF8? (Except.ok.inj hread)
  rw [fromUTF8?_utf8, fromUTF8?_utf8] at hbytes
  exact absurd hbytes (by decide)

end ServiceCharter.Command

import Mathlib.Data.List.Forall2
import ServiceCharter.Proofs.Command.Extras
import ServiceCharter.Proofs.Command.Overrides
import ServiceCharter.Proofs.Settings.Layers
import ServiceCharter.Proofs.Table

/-!
# Which setting counts

What a conversion to HTML writes depends on two settings, each of which can be given in the settings
file of the working folder, in the file behind `--config` and in an extra parameter. On its way from
there to the page a setting is laid over the default, replaced by the parameter, spelled as a
parameter of the format and read again. None of this loses it or lets it out of its turn: the
parameter counts before the given file, that before the one of the working folder, and that before
the default (`convert_html_delivers`).
-/

namespace ServiceCharter.Command

/-! ### Parameters of the format -/

/-- The settings for HTML come through as parameters, and style rules come from a parameter only. -/
private theorem optionsWith_targetParameters {settings : Settings} {others : Table String}
    (hsorted : others.Sorted) (hstandalone : others.get? standaloneKey = none)
    (htitle : others.get? titleKey = none) :
    Format.optionsWith .default (targetParameters settings others "html") =
      .ok ⟨settings.page.standalone, settings.page.title, others.get? "css"⟩ := by
  have hget : ∀ key, (targetParameters settings others "html").get? key =
      (others.get? key).or
        (if key = titleKey then some settings.page.title
        else if key = standaloneKey then
          some (if settings.page.standalone then "true" else "false")
        else none) := by
    intro key
    rw [targetParameters, if_pos rfl, Table.get?_foldl_insert hsorted.nodup]
    simp only [Table.ofList, List.foldl_cons, List.foldl_nil, Table.get?_insert, Table.get?_nil]
    rfl
  have hflag : Format.htmlFlag (if settings.page.standalone then "true" else "false") =
      .ok settings.page.standalone := by
    cases settings.page.standalone <;> decide
  have hgetFlag := hget standaloneKey
  have hgetTitle := hget titleKey
  have hgetStyle := hget "css"
  rw [hstandalone, if_neg (by decide), if_pos rfl, Option.none_or] at hgetFlag
  rw [htitle, if_pos rfl, Option.none_or] at hgetTitle
  rw [if_neg (by decide), if_neg (by decide), Option.or_none] at hgetStyle
  rw [standaloneKey] at hgetFlag
  rw [titleKey] at hgetTitle
  simp only [Format.optionsWith, hgetFlag, hgetTitle, hgetStyle, hflag, Except.map,
    Option.getD_some, Html.Options.default, Option.or_none]

/-! ### Runs -/

/-- A conversion of a document to HTML writes it with the options that its parameters make. -/
private theorem runOn_convertDetected_html {d : Disk} {input format : String}
    {source : Option String}
    {raw : Text} {doc : Document} {options : Html.Options} {settings : Settings}
    {others : Table String} (htext : textAt d input = .ok raw)
    (hformat : source.or (Registry.builtin.detect? input.toList) = some format)
    (hread : Registry.builtin.read raw format = .ok doc)
    (hoptions : Format.optionsWith .default (targetParameters settings others "html") = .ok options)
    (output : Option String) :
    (convertDetected settings others input source "html" output).runOn d =
      (writeResult output (Html.renderDocument options doc)).runOn d := by
  have htarget : Registry.builtin.get "html" = .ok (.html .default) := rfl
  have hwrite : Registry.builtin.writeWith doc "html" (targetParameters settings others "html") =
      .ok (Html.renderDocument options doc) := by
    rw [Registry.writeWith, htarget]
    simp only [Format.html, if_true, hoptions, Except.map]
  rw [runOn_convertDetected,
    convertedAt_eq_ok_iff.2 ⟨format, raw, doc, hformat, htext, hread, hwrite⟩]
  rfl

/-! ### Which setting counts -/

/-- What the settings files of a run are: the one that is given, and the one of the working folder.
A file that is not given is an empty one, and so is one that may be missing if it is. -/
structure FilesAt (d : Disk) (config : Option String) (given base : Tree) : Prop where
  base_holds : Settings.Holds (sourceAt d settingsFile false) base
  given_holds : ∀ path ∈ config, Settings.Holds (sourceAt d path.toList true) given
  given_empty : config = none → given = .table []

/-- The options that count: the value in the last parameter, or else that in the given file, or else
that in the file of the working folder, or else the default. There are style rules in parameters
only. -/
def pageOptions (words : List String) (given base : Tree) : Html.Options where
  standalone :=
    let parameter := (lastExtra? standaloneKey words).bind fun raw => Format.flag? (lowerCase raw)
    let value := (Settings.said? .standalone given).or (Settings.said? .standalone base)
    (parameter.or (value.bind Tree.toBool?)).getD Settings.defaults.page.standalone
  title :=
    let value := (Settings.said? .title given).or (Settings.said? .title base)
    ((lastExtra? titleKey words).or (value.bind Tree.toString?)).getD Settings.defaults.page.title
  css := lastExtra? "css" words

section Runs

variable {d : Disk} {words : List String} {config : Option String} {given base : Tree}

private theorem settingsAt_eq_ok (hfiles : FilesAt d config given base)
    (hgiven : Settings.WellFormed given) (hbase : Settings.WellFormed base) :
    settingsAt d config = .ok (Settings.layered [base, given]) := by
  cases config with
  | none =>
    obtain rfl : given = .table [] := hfiles.given_empty rfl
    have hload : settingsAt d none = .ok (Settings.layered [base]) :=
      Settings.load_eq_ok (.cons hfiles.base_holds .nil) (by simpa using hbase)
    rw [hload]
    rfl
  | some path =>
    have hboth : List.Forall₂ Settings.Holds (sourcesAt d (some path)) [base, given] :=
      .cons hfiles.base_holds (.cons (hfiles.given_holds path rfl) .nil)
    exact Settings.load_eq_ok hboth (by simp [hbase, hgiven])

/-- The settings of a run with its parameters make the options that count. -/
private theorem configures_pageOptions {m : Matches} {extras : Table String}
    (hwords : ReadAs words m extras) (hfiles : FilesAt d m.config given base)
    (hgiven : Settings.WellFormed given) (hbase : Settings.WellFormed base)
    (hflag : ∀ raw ∈ lastExtra? standaloneKey words,
      (Format.flag? (lowerCase raw)).isSome = true) :
    ∃ settings others, Configures d m.config extras settings others ∧
      Format.optionsWith .default (targetParameters settings others "html") =
        .ok (pageOptions words given base) := by
  obtain ⟨rest, hsplit, -⟩ := hwords
  have hextras : extras = (splitExtras words).2 := by rw [hsplit]
  have hextra : ∀ key, extras.get? key = lastExtra? key words := by
    intro key
    rw [hextras, get?_splitExtras]
  have hsorted : extras.Sorted := hextras ▸ sorted_splitExtras words
  have htake : takeFlag (extras.get? standaloneKey)
      (Settings.layered [base, given]).page.standalone =
        .ok (pageOptions words given base).standalone := by
    rw [hextra]
    cases hraw : lastExtra? standaloneKey words with
    | none => simp [takeFlag, pageOptions, Settings.layered, Settings.lastSaid?, hraw]
    | some raw =>
      obtain ⟨flag, hvalue⟩ := Option.isSome_iff_exists.1 (hflag raw hraw)
      simp [takeFlag, pageOptions, hraw, hvalue]
  obtain ⟨changed, hover, hpage⟩ := override_eq_ok htake
  have hnames := pairwise_disjoint_settingNames
  have hstyle : (takeEach extras settingNames).get? "css" = extras.get? "css" :=
    get?_takeEach_of_notMem hnames (by decide)
  refine ⟨changed, _, .intro (settingsAt_eq_ok hfiles hgiven hbase) hover, ?_⟩
  rw [optionsWith_targetParameters (sorted_takeEach hsorted _)
      (get?_takeEach_of_singleton hnames (by decide))
      (get?_takeEach_of_singleton hnames (by decide)), hpage, hstyle, hextra, hextra]
  simp [pageOptions, Settings.layered, Settings.textOf, Settings.lastSaid?]

/-- **A setting comes from the last parameter that gives it, or else from the given file, or else
from the file of the working folder, or else it is the default**, and each of the two settings does
so on its own. A run that converts to HTML, of whatever words, delivers the document written with
the options that so come about. Nothing else that the files and the parameters say shows in it. -/
theorem convert_html_delivers {input format : String} {source output : Option String}
    {extras : Table String} {raw : Text} {doc : Document}
    (hwords : ReadAs words ⟨some (.convert input source "html" output), false, config⟩ extras)
    (hfiles : FilesAt d config given base) (hgiven : Settings.WellFormed given)
    (hbase : Settings.WellFormed base)
    (hflag : ∀ raw ∈ lastExtra? standaloneKey words,
      (Format.flag? (lowerCase raw)).isSome = true)
    (htext : textAt d input = .ok raw)
    (hformat : source.or (Registry.builtin.detect? input.toList) = some format)
    (hread : Registry.builtin.read raw format = .ok doc)
    (houtput : ∀ path ∈ output, d.Writable path.toList) :
    Delivers d output (Html.renderDocument (pageOptions words given base) doc)
      ((script words).runOn d) := by
  obtain ⟨settings, others, hconf, hoptions⟩ :=
    configures_pageOptions hwords hfiles hgiven hbase hflag
  rw [script_of_readAs hwords, runOn_runMatches hconf rfl, perform,
    runOn_convertDetected_html htext hformat hread hoptions]
  exact delivers_writeResult houtput _

end Runs

/-! ### A run with both files -/

/-- A settings file for the working folder. -/
def folderText : Text := "[convert.html]\nstandalone = \"on\"\ntitle = \"A\"\n".toList

/-- A settings file in which a number stands for the title, under a path in other letters. -/
def givenText : Text := "\"Convert.HTML.title\" = 7\n".toList

/-- The members of the one file. -/
def folderMembers : Table Toml.Value :=
  [("convert", .table [("html", .table [("standalone", .string "on"), ("title", .string "A")])])]

/-- The members of the other file. -/
def givenMembers : Table Toml.Value := [("Convert.HTML.title", .integer 7)]

/-- A disk with both files and a document. -/
def settingsDisk : Disk :=
  ⟨[("c.toml", .file (utf8 givenText)), ("carta.toml", .file (utf8 folderText)),
    ("d.md", .file (utf8 ['b']))]⟩

private theorem parse_folderText : Toml.parse? folderText = some folderMembers := by decide +kernel

private theorem parse_givenText : Toml.parse? givenText = some givenMembers := by decide +kernel

private theorem filesAt_settingsDisk : FilesAt settingsDisk (some "c.toml")
    (Settings.spelled givenMembers) (Settings.spelled folderMembers) where
  base_holds := by
    rw [sourceAt_of_read (t := folderText) rfl]
    exact .file parse_folderText
  given_holds := by
    intro path hpath
    obtain rfl : "c.toml" = path := Option.some.inj hpath
    rw [sourceAt_of_read (t := givenText) rfl]
    exact .file parse_givenText
  given_empty := by simp

/-- The words of a conversion with the given file and with two parameters, one of them unknown. -/
def settingsWords : List String :=
  ["--config", "c.toml", "--extras-css", "p", "convert", "d.md", "--extra-name", "x",
    "--to", "html", "-o", "p.html"]

/-- The page comes from the one file, its title from the other, and its style rules from the
parameters. -/
theorem convert_html_delivers_on_settingsDisk :
    (ReadAs settingsWords ⟨some (.convert "d.md" none "html" (some "p.html")), false, some "c.toml"⟩
        [("css", "p"), ("name", "x")] ∧
      Settings.WellFormed (Settings.spelled givenMembers) ∧
      Settings.WellFormed (Settings.spelled folderMembers) ∧
      textAt settingsDisk "d.md" = .ok ['b'] ∧ settingsDisk.Writable "p.html".toList) ∧
    Delivers settingsDisk (some "p.html") (Html.renderDocument ⟨true, "7", some "p"⟩ ⟨['b']⟩)
      ((script settingsWords).runOn settingsDisk) := by
  have hwords : ReadAs settingsWords
      ⟨some (.convert "d.md" none "html" (some "p.html")), false, some "c.toml"⟩
      [("css", "p"), ("name", "x")] :=
    .intro ["--config", "c.toml", "convert", "d.md", "--to", "html", "-o", "p.html"] (by decide) rfl
  have hgiven : Settings.WellFormed (Settings.spelled givenMembers) := by decide +kernel
  have hfolder : Settings.WellFormed (Settings.spelled folderMembers) := by decide +kernel
  have htext : textAt settingsDisk "d.md" = .ok ['b'] := textAt_of_read rfl
  have hwritable : settingsDisk.Writable "p.html".toList := ⟨.empty, _, rfl⟩
  have hoptions : pageOptions settingsWords (Settings.spelled givenMembers)
      (Settings.spelled folderMembers) = ⟨true, "7", some "p"⟩ := by decide +kernel
  refine ⟨⟨hwords, hgiven, hfolder, htext, hwritable⟩, ?_⟩
  have hformat : (none : Option String).or (Registry.builtin.detect? "d.md".toList) =
      some "markdown" := by decide
  rw [← hoptions]
  exact convert_html_delivers hwords filesAt_settingsDisk hgiven hfolder (by decide) htext hformat
    rfl (by simpa using hwritable)

end ServiceCharter.Command

import Mathlib.Data.List.Pairwise
import ServiceCharter.Proofs.Command.Conversion
import ServiceCharter.Proofs.Table

/-!
# What settings leave of the extra parameters

Parameters that change settings are taken out before the rest goes to the target format. Of the
names that a setting has, only the first that is given is taken (`get?_takeFirst_eq`). The names of
different settings are different, so it makes no difference in which order the settings are changed,
and what stays is told by the parameters at the start (`get?_takeEach`).

A second name of a setting stays (`get?_takeEach_iff`), although it means nothing to any format.
HTML ignores it, but markup and plain text take no parameters and refuse it: if all parameters are
names of settings, a conversion to one of the two is refused if some setting is given under two
names, and otherwise never (`override_leaves_second_names`).
-/

namespace ServiceCharter.Command

/-! ### Taking the first name -/

section Taking

variable {parameters : Table String}

/-- The first of the keys that is given. -/
def firstGiven? (parameters : Table String) (keys : List String) : Option String :=
  keys.find? fun key => (parameters.get? key).isSome

private theorem mem_of_firstGiven? {keys : List String} {key : String}
    (h : firstGiven? parameters keys = some key) : key ∈ keys :=
  List.mem_of_find?_eq_some h

private theorem isSome_get?_of_firstGiven? {keys : List String} {key : String}
    (h : firstGiven? parameters keys = some key) : (parameters.get? key).isSome = true :=
  List.find?_some (p := fun key => (parameters.get? key).isSome) h

/-- If any of the keys is given then one of them is the first. -/
private theorem exists_firstGiven? {keys : List String} {key : String} (h : key ∈ keys)
    (hgiven : (parameters.get? key).isSome = true) :
    ∃ first, firstGiven? parameters keys = some first := by
  rw [← Option.isSome_iff_exists, firstGiven?, List.find?_isSome]
  exact ⟨key, h, hgiven⟩

/-- **Of several names only the first that is given is taken.** -/
theorem get?_takeFirst_eq (parameters : Table String) (keys : List String) (key : String) :
    (takeFirst parameters keys).2.get? key =
      if firstGiven? parameters keys = some key then none else parameters.get? key := by
  induction keys with
  | nil => rfl
  | cons k keys ih =>
    rw [takeFirst, firstGiven?, List.find?_cons]
    cases hk : parameters.get? k with
    | none => exact ih
    | some value =>
      rw [Table.get?_erase]
      simp [eq_comm]

private theorem takeFirst_singleton (parameters : Table String) (key : String) :
    (takeFirst parameters [key]).1 = parameters.get? key := by
  rw [takeFirst]
  split
  · next value hget => exact hget.symm
  · next hget => exact hget.symm

private theorem sorted_takeFirst (h : parameters.Sorted) (keys : List String) :
    (takeFirst parameters keys).2.Sorted := by
  induction keys with
  | nil => exact h
  | cons k keys ih =>
    rw [takeFirst]
    split
    · exact h.erase k
    · exact ih

/-- What is given elsewhere stays given. -/
private theorem firstGiven?_takeFirst {keys others : List String} (h : keys.Disjoint others) :
    firstGiven? (takeFirst parameters keys).2 others = firstGiven? parameters others := by
  simp only [firstGiven?, ← List.head?_filter]
  refine congrArg List.head? (List.filter_congr fun key hkey => ?_)
  have hnot : firstGiven? parameters keys ≠ some key := fun hfirst =>
    h (mem_of_firstGiven? hfirst) hkey
  rw [get?_takeFirst_eq, if_neg hnot]

/-- The parameters without the first given name of each setting. -/
def takeEach (parameters : Table String) (settings : List (List String)) : Table String :=
  settings.foldl (fun parameters keys => (takeFirst parameters keys).2) parameters

theorem sorted_takeEach (h : parameters.Sorted) (settings : List (List String)) :
    (takeEach parameters settings).Sorted := by
  induction settings generalizing parameters with
  | nil => exact h
  | cons keys settings ih => exact ih (sorted_takeFirst h keys)

/-- **What stays is told by the parameters at the start**, if no name belongs to two settings. -/
theorem get?_takeEach {settings : List (List String)} (h : settings.Pairwise List.Disjoint)
    (key : String) :
    (takeEach parameters settings).get? key =
      if ∃ keys ∈ settings, firstGiven? parameters keys = some key then none
      else parameters.get? key := by
  induction settings generalizing parameters with
  | nil => simp [takeEach]
  | cons keys settings ih =>
    obtain ⟨hkeys, hrest⟩ := List.pairwise_cons.1 h
    have hsame : (∃ others ∈ settings,
          firstGiven? (takeFirst parameters keys).2 others = some key) ↔
        ∃ others ∈ settings, firstGiven? parameters others = some key :=
      exists_congr fun others => and_congr_right fun hmem => by
        rw [firstGiven?_takeFirst (hkeys others hmem)]
    rw [takeEach, List.foldl_cons, ← takeEach, ih hrest, get?_takeFirst_eq]
    simp only [hsame, List.exists_mem_cons_iff]
    by_cases hfirst : firstGiven? parameters keys = some key <;> simp [hfirst]

/-- Two names of one setting are given. -/
def GivenTwice (parameters : Table String) (settings : List (List String)) : Prop :=
  ∃ names ∈ settings, ∃ a ∈ names, ∃ b ∈ names, a ≠ b ∧
    (parameters.get? a).isSome = true ∧ (parameters.get? b).isSome = true

instance (parameters : Table String) (settings : List (List String)) :
    Decidable (GivenTwice parameters settings) :=
  inferInstanceAs (Decidable (∃ names ∈ settings, ∃ a ∈ names, ∃ b ∈ names, a ≠ b ∧
    (parameters.get? a).isSome = true ∧ (parameters.get? b).isSome = true))

section Settings

variable {settings : List (List String)} (h : settings.Pairwise List.Disjoint)

include h

/-- A name belongs to one setting, so it is taken if it is the first given name of this setting. -/
private theorem exists_firstGiven?_iff {names : List String} (hnames : names ∈ settings)
    {key : String}
    (hkey : key ∈ names) : (∃ keys ∈ settings, firstGiven? parameters keys = some key) ↔
      firstGiven? parameters names = some key := by
  constructor
  · rintro ⟨keys, hkeys, hfirst⟩
    have hsame : keys = names := by
      by_contra hne
      have hsymm : Std.Symm fun l l' : List String => l.Disjoint l' :=
        ⟨fun _ _ hdisjoint _ hb ha => hdisjoint ha hb⟩
      exact h.forall hkeys hnames hne (mem_of_firstGiven? hfirst) hkey
    rwa [← hsame]
  · exact fun hfirst => ⟨names, hnames, hfirst⟩

/-- A name does not stay if no other name of its setting is given. -/
private theorem get?_takeEach_of_only {names : List String} (hnames : names ∈ settings)
    {key : String} (hkey : key ∈ names)
    (honly : ∀ other ∈ names, (parameters.get? other).isSome = true → other = key) :
    (takeEach parameters settings).get? key = none := by
  simp only [get?_takeEach h, exists_firstGiven?_iff h hnames hkey, ite_eq_left_iff]
  intro hnot
  by_contra hgiven
  obtain ⟨first, hfirst⟩ := exists_firstGiven? hkey (Option.isSome_iff_ne_none.2 hgiven)
  rw [honly first (mem_of_firstGiven? hfirst) (isSome_get?_of_firstGiven? hfirst)] at hfirst
  exact hnot hfirst

theorem get?_takeEach_of_singleton {key : String} (hkey : [key] ∈ settings) :
    (takeEach parameters settings).get? key = none :=
  get?_takeEach_of_only h hkey (List.mem_singleton_self key) fun _ hother _ =>
    List.mem_singleton.1 hother

/-- What is no name of a setting stays. -/
theorem get?_takeEach_of_notMem {key : String} (hkey : key ∉ settings.flatten) :
    (takeEach parameters settings).get? key = parameters.get? key := by
  rw [get?_takeEach h, if_neg]
  rintro ⟨keys, hkeys, hfirst⟩
  exact hkey (List.mem_flatten_of_mem hkeys (mem_of_firstGiven? hfirst))

/-- **All names are taken if no setting is given under two of its names**, and only then. -/
theorem get?_takeEach_iff :
    (∀ key, (takeEach parameters settings).get? key =
        if key ∈ settings.flatten then none else parameters.get? key) ↔
      ¬GivenTwice parameters settings := by
  constructor
  · rintro hall ⟨names, hnames, a, ha, b, hb, hne, hgivenA, hgivenB⟩
    -- A name that is given and does not stay is the first of its setting.
    have hfirst : ∀ key ∈ names, (parameters.get? key).isSome = true →
        firstGiven? parameters names = some key := by
      intro key hkey hgiven
      by_contra hnot
      have hget := hall key
      simp only [get?_takeEach h, exists_firstGiven?_iff h hnames hkey, if_neg hnot,
        if_pos (List.mem_flatten_of_mem hnames hkey)] at hget
      rw [hget] at hgiven
      cases hgiven
    exact hne (Option.some.inj ((hfirst a ha hgivenA).symm.trans (hfirst b hb hgivenB)))
  · intro honce key
    by_cases hkey : key ∈ settings.flatten
    · obtain ⟨names, hnames, hmem⟩ := List.mem_flatten.1 hkey
      rw [if_pos hkey]
      by_cases hgiven : parameters.get? key = none
      · rw [get?_takeEach h, hgiven, ite_self]
      · refine get?_takeEach_of_only h hnames hmem fun other hother hsome => ?_
        by_contra hne
        exact honce ⟨names, hnames, other, hother, key, hmem, hne, hsome,
          Option.isSome_iff_ne_none.2 hgiven⟩
    · rw [get?_takeEach_of_notMem h hkey, if_neg hkey]

/-- Of parameters that are names of settings, something stays if a setting is given twice. -/
private theorem takeEach_eq_nil_iff (hnames : ∀ key ∈ parameters.keys, key ∈ settings.flatten) :
    takeEach parameters settings = [] ↔ ¬GivenTwice parameters settings := by
  rw [← get?_takeEach_iff h, Table.eq_nil_iff_get?]
  refine forall_congr' fun key => ?_
  split
  · rfl
  · next hkey => rw [Table.get?_eq_none fun hmem => hkey (hnames key hmem)]

end Settings

end Taking

/-! ### The names of the settings -/

/-- The names of each setting that extra parameters can change. -/
def settingNames : List (List String) :=
  [[standaloneKey], [titleKey], markdownNameKeys, textNameKeys]

theorem pairwise_disjoint_settingNames : settingNames.Pairwise List.Disjoint := by
  simp [settingNames, standaloneKey, titleKey, markdownNameKeys, textNameKeys]

/-- What the parameters make of the settings, and which of them stay. -/
theorem override_eq_ok {settings : Settings} {parameters : Table String} {standalone : Bool}
    (hflag : takeFlag (parameters.get? standaloneKey) settings.page.standalone = .ok standalone) :
    ∃ changed, override settings parameters = .ok (changed, takeEach parameters settingNames) ∧
      changed.page = ⟨standalone, (parameters.get? titleKey).getD settings.page.title⟩ := by
  have htitle : (takeFirst (takeFirst parameters [standaloneKey]).2 [titleKey]).1 =
      parameters.get? titleKey := by
    have hother : firstGiven? parameters [standaloneKey] ≠ some titleKey := fun hfirst =>
      absurd (mem_of_firstGiven? hfirst) (by decide)
    rw [takeFirst_singleton, get?_takeFirst_eq, if_neg hother]
  simp only [override, takeFirst_singleton parameters standaloneKey, hflag, Except.map, htitle]
  exact ⟨_, rfl, rfl⟩

/-- A truth value that is accepted is taken for the setting. -/
private theorem exists_override_eq (settings : Settings) {parameters : Table String}
    (hflag : ∀ raw ∈ parameters.get? standaloneKey,
      (Format.flag? (lowerCase raw)).isSome = true) :
    ∃ changed, override settings parameters = .ok (changed, takeEach parameters settingNames) := by
  obtain ⟨standalone, htake⟩ : ∃ standalone,
      takeFlag (parameters.get? standaloneKey) settings.page.standalone = .ok standalone := by
    cases hraw : parameters.get? standaloneKey with
    | none => exact ⟨settings.page.standalone, rfl⟩
    | some raw =>
      obtain ⟨flag, hvalue⟩ := Option.isSome_iff_exists.1 (hflag raw hraw)
      exact ⟨flag, by simp [takeFlag, hvalue]⟩
  obtain ⟨changed, hover, -⟩ := override_eq_ok htake
  exact ⟨changed, hover⟩

/-! ### Runs -/

/-- The file holds this document. -/
inductive Opens (d : Disk) (input : String) (source : Option String) (doc : Document) : Prop
  | intro {format : String} {raw : Text}
    (hformat : source.or (Registry.builtin.detect? input.toList) = some format)
    (htext : textAt d input = .ok raw) (hread : Registry.builtin.read raw format = .ok doc)

/-- The file holds a document, and the target refuses the parameters with which it is to be
written. -/
inductive RefusesParameters (d : Disk) (config : Option String) (extras : Table String)
    (input : String) (source : Option String) (target : String) : Prop
  | intro {settings : Settings} {others : Table String} {doc : Document}
    (hconf : Configures d config extras settings others) (hopens : Opens d input source doc)
    (hwrite : Registry.builtin.writeWith doc target (targetParameters settings others target) =
      .error (Format.parametersRefused target))

/-- The line that says that a target refuses its parameters. -/
def refusal (target : String) : String :=
  s!"Serialization error: {(Format.parametersRefused target).message}"

variable {d : Disk} {config source : Option String} {extras : Table String} {input target : String}

/-- Markup and plain text are written without parameters only. -/
private theorem writeWith_targetParameters (htarget : target = "markdown" ∨ target = "text")
    (doc : Document) (settings : Settings) (others : Table String) :
    Registry.builtin.writeWith doc target (targetParameters settings others target) =
      if others = [] then Registry.builtin.write doc target
      else .error (Format.parametersRefused target) := by
  have hhtml : target ≠ "html" := by
    rcases htarget with rfl | rfl <;> decide
  have hwrite : ∀ parameters : Table String,
      Registry.builtin.writeWith doc target parameters =
        if parameters.isEmpty then Registry.builtin.write doc target
        else .error (Format.parametersRefused target) := by
    intro parameters
    rcases htarget with rfl | rfl <;> rfl
  rw [hwrite, targetParameters, if_neg hhtml]
  simp only [List.isEmpty_iff, Table.foldl_insert_eq_nil_iff, and_true]

/-- The two targets write every document. -/
private theorem exists_write_eq (htarget : target = "markdown" ∨ target = "text") (doc : Document) :
    ∃ text, Registry.builtin.write doc target = .ok text := by
  rcases htarget with rfl | rfl
  · exact ⟨doc.source, rfl⟩
  · exact ⟨doc.plainText, rfl⟩

/-- A run whose parameters are refused fails and says so, wherever its text was to go. -/
private theorem runOn_of_refusesParameters
    (h : RefusesParameters d config extras input source target)
    (htarget : target = "markdown" ∨ target = "text") :
    ∃ t, ∀ output,
      (runMatches ⟨some (.convert input source target output), false, config⟩ extras).runOn d =
        (Outcome.failed d (refusal target)).warned t := by
  obtain @⟨settings, others, doc, hconf, @⟨format, raw, hformat, htext, hread⟩, hwrite⟩ := h
  refine ⟨filterReport settings, fun output => ?_⟩
  obtain ⟨f, hsource, -⟩ := Registry.read_eq_ok_iff.1 hread
  obtain ⟨g, hfound⟩ : ∃ g, Registry.builtin.get target = .ok g := by
    rcases htarget with rfl | rfl <;> exact ⟨_, rfl⟩
  have hconverted : convertedAt d settings others input source target =
      .error (refusal target) := by
    simp only [convertedAt, hformat, hsource, hfound, htext, hread, hwrite, Except.mapError,
      Except.bind]
    rfl
  rw [runOn_runMatches hconf rfl, perform, runOn_convertDetected, hconverted,
    Script.runOn_orFail_error]
  rfl

/-- **What is refused.** With parameters that are names of settings only, a run that gets as far as
to write its document is refused if a setting is given under two names, and then only. -/
theorem refusesParameters_iff {settings : Settings} (hload : settingsAt d config = .ok settings)
    (hflag : ∀ raw ∈ extras.get? standaloneKey, (Format.flag? (lowerCase raw)).isSome = true)
    (hnames : ∀ key ∈ extras.keys, key ∈ settingNames.flatten)
    (htarget : target = "markdown" ∨ target = "text") :
    RefusesParameters d config extras input source target ↔
      GivenTwice extras settingNames ∧ ∃ doc, Opens d input source doc := by
  obtain ⟨changed, hover⟩ := exists_override_eq settings hflag
  have hleft := takeEach_eq_nil_iff pairwise_disjoint_settingNames hnames
  constructor
  · rintro @⟨_, _, doc, @⟨base, _, _, hload', hover'⟩, hopens, hwrite⟩
    obtain rfl : settings = base := Except.ok.inj (hload.symm.trans hload')
    obtain ⟨-, rfl⟩ := Prod.mk.inj (Except.ok.inj (hover.symm.trans hover'))
    refine ⟨?_, doc, hopens⟩
    by_contra honce
    obtain ⟨text, htext⟩ := exists_write_eq htarget doc
    rw [writeWith_targetParameters htarget, if_pos (hleft.2 honce), htext] at hwrite
    cases hwrite
  · rintro ⟨htwice, doc, hopens⟩
    refine ⟨.intro hload hover, hopens, ?_⟩
    rw [writeWith_targetParameters htarget, if_neg fun hnil => hleft.1 hnil htwice]

/-! ### What stays -/

/-- **The second name of a setting stays among the parameters of the format.** Of the names of each
setting the first that is given is taken out of the parameters, and all other parameters stay with
their values. So exactly those parameters that are no names of settings stay if no setting is given
under two names, and only then.

Of the runs that convert to markup or plain text with names of settings only, the target refuses the
parameters exactly of those that find a document and give some setting under two names. -/
theorem override_leaves_second_names (settings : Settings) {extras : Table String}
    (hflag : ∀ raw ∈ extras.get? standaloneKey, (Format.flag? (lowerCase raw)).isSome = true) :
    ∃ changed others, override settings extras = .ok (changed, others) ∧
      (∀ key, others.get? key =
        if ∃ names ∈ settingNames, firstGiven? extras names = some key then none
        else extras.get? key) ∧
      ((∀ key, others.get? key =
          if key ∈ settingNames.flatten then none else extras.get? key) ↔
        ¬GivenTwice extras settingNames) ∧
      ∀ d config input source target, settingsAt d config = .ok settings →
        (∀ key ∈ extras.keys, key ∈ settingNames.flatten) →
        (target = "markdown" ∨ target = "text") →
        (RefusesParameters d config extras input source target ↔
          GivenTwice extras settingNames ∧ ∃ doc, Opens d input source doc) ∧
        ∀ words output,
          ReadAs words ⟨some (.convert input source target output), false, config⟩ extras →
          RefusesParameters d config extras input source target →
          ∃ t, (script words).runOn d = (Outcome.failed d (refusal target)).warned t := by
  obtain ⟨changed, hover⟩ := exists_override_eq settings hflag
  refine ⟨changed, _, hover, get?_takeEach pairwise_disjoint_settingNames,
    get?_takeEach_iff pairwise_disjoint_settingNames, ?_⟩
  intro d config input source target hload hnames htarget
  refine ⟨refusesParameters_iff hload hflag hnames htarget, fun words output hread hrefuses => ?_⟩
  obtain ⟨t, hrun⟩ := runOn_of_refusesParameters hrefuses htarget
  exact ⟨t, by rw [script_of_readAs hread, hrun]⟩

/-- Parameters with both names of the document to download. -/
def twoNames : Table String :=
  [("markdown-file-name", "a"), ("md-name", "b"), ("standalone", "Yes")]

/-- The words of a conversion to plain text with these parameters. -/
def twoNamesWords : List String :=
  ["d.md", "--extra-markdown-file-name", "a", "--extras-md-name", "b", "--extra-standalone", "Yes",
    "--to", "text"]

private theorem opens_documentDisk : Opens documentDisk "d.md" none ⟨"- **um**".toList⟩ := by
  have hformat : (none : Option String).or (Registry.builtin.detect? "d.md".toList) =
      some "markdown" := by decide
  exact .intro hformat (textAt_of_read rfl) rfl

/-- The second name is left over, and plain text refuses it. -/
theorem override_leaves_twoNames :
    (∀ raw ∈ twoNames.get? standaloneKey, (Format.flag? (lowerCase raw)).isSome = true) ∧
    ∃ changed others, override Settings.defaults twoNames = .ok (changed, others) ∧
      others.get? "md-name" = some "b" ∧ others.get? "markdown-file-name" = none ∧
      others.get? standaloneKey = none ∧
      ∃ t, (script twoNamesWords).runOn documentDisk =
        (Outcome.failed documentDisk (refusal "text")).warned t := by
  have hflag : ∀ raw ∈ twoNames.get? standaloneKey,
      (Format.flag? (lowerCase raw)).isSome = true := by decide +kernel
  have hwords : ReadAs twoNamesWords ⟨some (.convert "d.md" none "text" none), false, none⟩
      twoNames := .intro ["d.md", "--to", "text"] (by decide) rfl
  have hload : settingsAt documentDisk none = .ok Settings.defaults :=
    settingsAt_eq_defaults (by decide)
  obtain ⟨changed, others, hover, hget, -, hruns⟩ :=
    override_leaves_second_names Settings.defaults hflag
  obtain ⟨hrefuses, hfails⟩ := hruns documentDisk none "d.md" none "text" hload
    (by decide) (Or.inr rfl)
  have hrefused := hrefuses.2 ⟨by decide, _, opens_documentDisk⟩
  refine ⟨hflag, changed, others, hover, ?_, ?_, ?_, hfails _ _ hwords hrefused⟩
  all_goals
    rw [hget]
    decide

/-- Not every name of a setting is taken out of the parameters. -/
theorem override_does_not_take_all_names :
    override Settings.defaults twoNames =
      .ok (⟨⟨"a", Settings.defaults.downloads.textFileName⟩,
        ⟨true, Settings.defaults.page.title⟩, Settings.defaults.logFilter⟩, [("md-name", "b")]) ∧
    "md-name" ∈ settingNames.flatten := by
  decide +kernel

end ServiceCharter.Command

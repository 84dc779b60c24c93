import ServiceCharter.Command.Grammar
import ServiceCharter.Proofs.Command.Extras

/-!
# What command lines are read as

The same request can be spelled in many ways, and what a run does depends only on what its words are
read as (`ReadAs`).

A word that is neither an option nor the mark `--` stands for itself: where a value is wanted it is
the value, and it names no extra parameter. So command lines that give the name of a command, an
input and values for options are read as they are meant, with the settings file in front of them if
there is one.
-/

namespace ServiceCharter.Command

/-- The words are read as this command line, with these extra parameters taken out of them. -/
inductive ReadAs (words : List String) (m : Matches) (extras : Table String) : Prop
  | intro (rest : List String) (hsplit : splitExtras words = (rest, extras))
    (hmatch : matchWithDefault rest = .ok m)

/-- Words are read in one way at most. -/
theorem ReadAs.unique {words : List String} {m m' : Matches} {extras extras' : Table String}
    (h : ReadAs words m extras) (h' : ReadAs words m' extras') : m = m' ∧ extras = extras' := by
  obtain ⟨rest, hsplit, hmatch⟩ := h
  obtain ⟨rest', hsplit', hmatch'⟩ := h'
  rw [hsplit] at hsplit'
  cases hsplit'
  rw [hmatch] at hmatch'
  cases hmatch'
  exact ⟨rfl, rfl⟩

/-- The word is neither an option nor the mark behind which there are none. -/
def Plain (word : String) : Prop := Form.ofWord word = .plain

instance (word : String) : Decidable (Plain word) :=
  inferInstanceAs (Decidable (Form.ofWord word = .plain))

/-! ### Extra parameters -/

theorem Plain.toList_ne {word : String} (h : Plain word) (rest : Text) :
    word.toList ≠ '-' :: '-' :: rest := by
  intro heq
  rw [Plain, Form.ofWord, heq] at h
  cases rest with
  | nil => cases h
  | cons c rest =>
    simp only [] at h
    split at h <;> cases h

/-- A word that is no option names no extra parameter. -/
theorem Plain.extraKey?_eq_none {word : String} (h : Plain word) : extraKey? word = none :=
  Command.extraKey?_eq_none h.toList_ne

/-! ### Matching -/

/-- The words that give a settings file. -/
def configWords (config : Option String) : List String :=
  (config.map fun path => ["--config", path]).getD []

private theorem takeOuter_command {p : Progress} (hp : p.wantsValue = false) {name : Name}
    {words : List String} {inner : Request × Progress} (h : matchInner name words = .ok inner) :
    takeOuter p (name.word :: words) = finishOuter p (some inner) := by
  have hname : Name.ofWord? name.word = some name := by cases name <;> decide
  simp [takeOuter, hp, hname, h, Except.bind]

private theorem finishOuter_of_settle {p p' : Progress} (hp : p.settle = .ok p') (request : Request)
    (q : Progress) : finishOuter p (some (request, q)) =
      .ok ⟨some request, (p'.get? .listFormats).isSome || (q.get? .listFormats).isSome,
        (q.get? .config).or (p'.get? .config)⟩ := by
  rw [finishOuter, hp]
  rfl

/-- In front of a command, the words for the settings file are kept for the whole command line. -/
private theorem matchWords_configWords_append {config : Option String}
    (hconfig : ∀ path ∈ config, Plain path) {name : Name} {words : List String}
    {request : Request} {q : Progress} (h : matchInner name words = .ok (request, q))
    (hlist : q.get? .listFormats = none) (hq : q.get? .config = none) :
    matchWords (configWords config ++ name.word :: words) = .ok ⟨some request, false, config⟩ := by
  cases config with
  | none =>
    have hstart : matchWords (configWords none ++ name.word :: words) =
        finishOuter .start (some (request, q)) := takeOuter_command rfl h
    have hsettle : Progress.start.settle = .ok .start := rfl
    rw [hstart, finishOuter_of_settle hsettle, hlist, hq]
    rfl
  | some path =>
    have hpath : Form.ofWord path = .plain := hconfig path rfl
    -- The option waits for its value, and the value is the next word.
    have hoption : takeOuter .start ("--config" :: path :: name.word :: words) =
        takeOuter ⟨[], some (.config, none), false⟩ (path :: name.word :: words) := rfl
    have hvalue : takeOuter ⟨[], some (.config, none), false⟩ (path :: name.word :: words) =
        takeOuter ⟨[], some (.config, some path), false⟩ (name.word :: words) := by
      rw [takeOuter]
      simp [Progress.wantsValue, Progress.takeValue, hpath]
    have hstart : matchWords (configWords (some path) ++ name.word :: words) =
        finishOuter ⟨[], some (.config, some path), false⟩ (some (request, q)) :=
      hoption.trans (hvalue.trans (takeOuter_command rfl h))
    have hsettle : Progress.settle ⟨[], some (.config, some path), false⟩ =
        .ok ⟨[(.config, path)], none, false⟩ := rfl
    rw [hstart, finishOuter_of_settle hsettle, hlist, hq]
    rfl

private theorem matchWithDefault_of_ok {words : List String} {m : Matches}
    (h : matchWords words = .ok m) : matchWithDefault words = .ok m := by
  rw [matchWithDefault, h]

/-! ### The two commands -/

section Runs

variable {config : Option String} {input : String}

/-- The words that export the downloads of a file into a folder. -/
def exportWords (config : Option String) (input folder : String) : List String :=
  configWords config ++ ["export", input, "--dir", folder]

/-- The words that convert a file from a format to another and print the result. -/
def convertWords (config : Option String) (input source target : String) : List String :=
  configWords config ++ ["convert", input, "--from", source, "--to", target]

private theorem extraKey?_configWords (hconfig : ∀ path ∈ config, Plain path) :
    ∀ w ∈ configWords config, extraKey? w = none := by
  cases config with
  | none => exact fun w hw => absurd hw List.not_mem_nil
  | some path =>
    have hoption : extraKey? "--config" = none := by decide
    simpa [configWords, hoption] using (hconfig path rfl).extraKey?_eq_none

/-- The words of an export are read as it. -/
theorem readAs_exportWords {folder : String} (hconfig : ∀ path ∈ config, Plain path)
    (hinput : Plain input) (hfolder : Plain folder) :
    ReadAs (exportWords config input folder) ⟨some (.export input folder), false, config⟩ [] := by
  have hsplit : splitExtras (exportWords config input folder) =
      (exportWords config input folder, []) := by
    have hexport : extraKey? "export" = none := by decide
    have hdir : extraKey? "--dir" = none := by decide
    refine splitExtras_of_forall (List.forall_mem_append.2 ⟨extraKey?_configWords hconfig, ?_⟩)
    simpa using ⟨hexport, hinput.extraKey?_eq_none, hdir, hfolder.extraKey?_eq_none⟩
  have hinner : matchInner .export [input, "--dir", folder] = .ok (.export input folder,
      ⟨[(.input, input), (.folder, folder)], none, true⟩) := by
    unfold Plain at hinput hfolder
    have hdir : Form.ofWord "--dir" = .long "dir" none := by decide
    simp only [matchInner, takeInner, takeWord, hinput, hfolder, hdir]
    rfl
  exact .intro _ hsplit
    (matchWithDefault_of_ok (matchWords_configWords_append hconfig hinner rfl rfl))

/-- The words of a conversion are read as it. -/
theorem readAs_convertWords {source target : String} (hconfig : ∀ path ∈ config, Plain path)
    (hinput : Plain input) (hsource : Plain source) (htarget : Plain target) :
    ReadAs (convertWords config input source target)
      ⟨some (.convert input (some source) target none), false, config⟩ [] := by
  have hsplit : splitExtras (convertWords config input source target) =
      (convertWords config input source target, []) := by
    have hconvert : extraKey? "convert" = none := by decide
    have hfrom : extraKey? "--from" = none := by decide
    have hto : extraKey? "--to" = none := by decide
    refine splitExtras_of_forall (List.forall_mem_append.2 ⟨extraKey?_configWords hconfig, ?_⟩)
    simpa using ⟨hconvert, hinput.extraKey?_eq_none, hfrom, hsource.extraKey?_eq_none, hto,
      htarget.extraKey?_eq_none⟩
  have hinner : matchInner .convert [input, "--from", source, "--to", target] =
      .ok (.convert input (some source) target none,
        ⟨[(.input, input), (.source, source), (.target, target)], none, true⟩) := by
    unfold Plain at hinput hsource htarget
    have hfrom : Form.ofWord "--from" = .long "from" none := by decide
    have hto : Form.ofWord "--to" = .long "to" none := by decide
    simp only [matchInner, takeInner, takeWord, hinput, hsource, htarget, hfrom, hto]
    rfl
  exact .intro _ hsplit
    (matchWithDefault_of_ok (matchWords_configWords_append hconfig hinner rfl rfl))

end Runs

end ServiceCharter.Command

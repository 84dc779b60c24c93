import ServiceCharter.Proofs.Text.Pieces
import ServiceCharter.Registry

/-!
# Detecting formats by file names

Only the last component of a path counts, and of that only what follows the last point
(`FileName.extension?_append_slash`, `FileName.extension?_eq_some_iff`).

A registry looks for a format with this extension and takes the first that it comes upon. Which one
that is may depend on the order in which the formats are looked through, but only if two of them
share an extension (`Registry.detectAmong?_eq_some_iff`). No two formats of the program do, so what
is detected depends on the extension alone (`Registry.detect?_by_last_extension`).
-/

namespace ServiceCharter

/-! ### Extensions -/

namespace FileName

/-- The name of a file by itself: no path, and not one of the names of folders. -/
structure IsBare (name : Text) : Prop where
  ne_nil : name ≠ []
  slash_notMem : '/' ∉ name
  ne_here : name ≠ ['.']
  ne_above : name ≠ ['.', '.']

theorem components_append_slash (folder t : Text) :
    components (folder ++ '/' :: t) = components folder ++ components t := by
  rw [components, List.splitOn_append_cons_self, List.filter_append]
  rfl

theorem IsBare.components_eq {name : Text} (h : IsBare name) : components name = [name] := by
  rw [components, List.splitOn_eq_singleton h.slash_notMem]
  exact List.filter_eq_self.2 (by simp [h.ne_nil, h.ne_here])

/-- **Folders do not count.** -/
theorem extension?_append_slash {name : Text} (h : IsBare name) (folder : Text) :
    extension? (folder ++ '/' :: name) = extension? name := by
  rw [extension?, extension?, components_append_slash, h.components_eq, List.getLast?_concat]
  rfl

private theorem cutAtLastPoint?_eq_none_iff {t : Text} : cutAtLastPoint? t = none ↔ '.' ∉ t := by
  induction t with
  | nil => exact iff_of_true rfl List.not_mem_nil
  | cons c t ih =>
    rw [cutAtLastPoint?, List.mem_cons, not_or, ← ih]
    cases cutAtLastPoint? t with
    | some pieces => simp
    | none => simp [eq_comm]

private theorem cutAtLastPoint?_eq_some_iff {t stem extension : Text} :
    cutAtLastPoint? t = some (stem, extension) ↔
      t = stem ++ '.' :: extension ∧ '.' ∉ extension := by
  constructor
  · intro h
    induction t generalizing stem with
    | nil => cases h
    | cons c t ih =>
      rw [cutAtLastPoint?] at h
      cases hcut : cutAtLastPoint? t with
      | some pieces =>
        obtain ⟨stem', extension'⟩ := pieces
        rw [hcut] at h
        cases h
        obtain ⟨rfl, hnot⟩ := ih hcut
        exact ⟨rfl, hnot⟩
      | none =>
        rw [hcut] at h
        obtain ⟨rfl, heq⟩ := Option.ite_none_right_eq_some.1 h
        cases heq
        exact ⟨rfl, cutAtLastPoint?_eq_none_iff.1 hcut⟩
  · rintro ⟨rfl, hnot⟩
    induction stem with
    | nil =>
      rw [List.nil_append, cutAtLastPoint?, cutAtLastPoint?_eq_none_iff.2 hnot]
      rfl
    | cons c stem ih => rw [List.cons_append, cutAtLastPoint?, ih]

/-- **The extension is what follows the last point**, which is not the first character. -/
theorem extension?_eq_some_iff {name : Text} (h : IsBare name) {extension : Text} :
    extension? name = some extension ↔
      ∃ stem, name = stem ++ '.' :: extension ∧ stem ≠ [] ∧ '.' ∉ extension := by
  rw [extension?, h.components_eq, List.getLast?_singleton, Option.bind_some, extensionOf?,
    if_neg h.ne_above]
  constructor
  · intro hextension
    split at hextension
    · next c stem extension' hcut =>
      cases hextension
      obtain ⟨hname, hnot⟩ := cutAtLastPoint?_eq_some_iff.1 hcut
      exact ⟨c :: stem, hname, List.cons_ne_nil c stem, hnot⟩
    · cases hextension
  · rintro ⟨stem, hname, hstem, hnot⟩
    obtain ⟨c, stem, rfl⟩ := List.exists_cons_of_ne_nil hstem
    rw [cutAtLastPoint?_eq_some_iff.2 ⟨hname, hnot⟩]

example : extension? ".md".toList = none ∧ extension? "a..md".toList = some "md".toList := by decide

end FileName

/-! ### Searching -/

/-- The extension of the file name is one of the format's. -/
def Format.Matches (f : Format) (fileName : Text) : Prop :=
  ∃ extension, FileName.extension? fileName = some extension ∧
    String.ofList extension ∈ f.extensions

namespace Registry

/-- The formats in the order of their names. -/
def values (r : Registry) : List Format := r.formats.map Prod.snd

/-- The name of the first of the formats that matches a file name. -/
def detectAmong? (formats : List Format) (fileName : Text) : Option String :=
  (FileName.extension? fileName).bind fun extension =>
    (formats.find? fun f => f.extensions.contains (String.ofList extension)).map Format.name

private theorem detect?_eq (r : Registry) (fileName : Text) :
    r.detect? fileName = detectAmong? r.values fileName := rfl

theorem exists_of_detectAmong? {formats : List Format} {fileName : Text} {name : String}
    (h : detectAmong? formats fileName = some name) :
    ∃ f ∈ formats, f.name = name ∧ f.Matches fileName := by
  obtain ⟨extension, hextension, hfind⟩ := Option.bind_eq_some_iff.1 h
  obtain ⟨f, hf, rfl⟩ := Option.map_eq_some_iff.1 hfind
  have hmem := List.find?_some hf
  exact ⟨f, List.mem_of_find?_eq_some hf, rfl, extension, hextension, by simpa using hmem⟩

/-- Something is detected if any of the formats matches. -/
theorem isSome_detectAmong?_iff {formats : List Format} {fileName : Text} :
    (detectAmong? formats fileName).isSome = true ↔ ∃ f ∈ formats, f.Matches fileName := by
  constructor
  · intro h
    obtain ⟨name, hname⟩ := Option.isSome_iff_exists.1 h
    obtain ⟨f, hf, -, hmatches⟩ := exists_of_detectAmong? hname
    exact ⟨f, hf, hmatches⟩
  · rintro ⟨f, hf, extension, hextension, hmem⟩
    rw [detectAmong?, hextension, Option.bind_some, Option.isSome_map, List.find?_isSome]
    exact ⟨f, hf, by simpa using hmem⟩

/-- Formats that share an extension have the same name. -/
def Unambiguous (formats : List Format) : Prop :=
  ∀ f ∈ formats, ∀ e ∈ f.extensions, ∀ g ∈ formats, e ∈ g.extensions → f.name = g.name

instance (formats : List Format) : Decidable (Unambiguous formats) := List.decidableBAll _ _

/-- Where the extension tells the format, it does not matter which format is looked at first. -/
theorem detectAmong?_eq_some_iff {formats : List Format} (h : Unambiguous formats)
    {fileName : Text} {name : String} :
    detectAmong? formats fileName = some name ↔
      ∃ f ∈ formats, f.name = name ∧ f.Matches fileName := by
  refine ⟨exists_of_detectAmong?, ?_⟩
  rintro ⟨f, hf, rfl, hmatches⟩
  obtain ⟨name, hname⟩ :=
    Option.isSome_iff_exists.1 (isSome_detectAmong?_iff.2 ⟨f, hf, hmatches⟩)
  obtain ⟨g, hg, rfl, extension, hextension, hmem⟩ := exists_of_detectAmong? hname
  obtain ⟨extension', hextension', hmem'⟩ := hmatches
  obtain rfl : extension = extension' := Option.some.inj (hextension.symm.trans hextension')
  rw [hname, h f hf _ hmem' g hg hmem]

private theorem detectAmong?_eq_of_perm {formats formats' : List Format} (h : Unambiguous formats)
    (hperm : formats'.Perm formats) (fileName : Text) :
    detectAmong? formats' fileName = detectAmong? formats fileName := by
  have h' : Unambiguous formats' := fun f hf e he g hg =>
    h f (hperm.mem_iff.1 hf) e he g (hperm.mem_iff.1 hg)
  ext name
  rw [detectAmong?_eq_some_iff h, detectAmong?_eq_some_iff h']
  simp only [hperm.mem_iff]

/-! ### The formats of the program -/

/-- The formats of the program with their extensions. -/
def builtinExtensions : List (String × List String) :=
  [("html", ["html", "htm"]), ("json", ["json"]), ("markdown", ["md", "markdown"]),
    ("text", ["txt"])]

private theorem map_values_builtin :
    builtin.values.map (fun f => (f.name, f.extensions)) = builtinExtensions := rfl

theorem unambiguous_builtin : Unambiguous builtin.values := by decide

/-- **Detection depends only on the last extension of a file name.** Folders do not count. A format
of the program is detected exactly if the text behind the last point, which must not be the first
character, is one of its extensions, case included; and in whatever order the formats are looked
through. -/
theorem detect?_by_last_extension {name : Text} (h : FileName.IsBare name) (folder : Text) :
    builtin.detect? (folder ++ '/' :: name) = builtin.detect? name ∧
      (∀ format, builtin.detect? name = some format ↔
        ∃ stem extension extensions, name = stem ++ '.' :: extension ∧ stem ≠ [] ∧
          '.' ∉ extension ∧ (format, extensions) ∈ builtinExtensions ∧
            String.ofList extension ∈ extensions) ∧
      ∀ formats : List Format, formats.Perm builtin.values → ∀ path,
        detectAmong? formats path = builtin.detect? path := by
  refine ⟨?_, fun format => ?_, fun formats hperm path => ?_⟩
  · rw [detect?, detect?, FileName.extension?_append_slash h]
  · rw [detect?_eq, detectAmong?_eq_some_iff unambiguous_builtin, ← map_values_builtin]
    simp only [Format.Matches, FileName.extension?_eq_some_iff h, List.mem_map]
    constructor
    · rintro ⟨f, hf, rfl, extension, ⟨stem, hname, hstem, hnot⟩, hmem⟩
      exact ⟨stem, extension, f.extensions, hname, hstem, hnot, ⟨f, hf, rfl⟩, hmem⟩
    · rintro ⟨stem, extension, _, hname, hstem, hnot, ⟨f, hf, hpair⟩, hmem⟩
      cases hpair
      exact ⟨f, hf, rfl, extension, ⟨stem, hname, hstem, hnot⟩, hmem⟩
  · exact detectAmong?_eq_of_perm unambiguous_builtin hperm path

/-- A name with two points, below folders with points. -/
theorem detect?_below_pointed_folders :
    FileName.IsBare "nota.html.md".toList ∧
      builtin.detect? ("/v1.0//a.json/..".toList ++ '/' :: "nota.html.md".toList) =
        some "markdown" ∧
      detectAmong? builtin.values.reverse "nota.html.md".toList = some "markdown" := by
  have hbare : FileName.IsBare "nota.html.md".toList := ⟨by decide, by decide, by decide, by decide⟩
  obtain ⟨hfolder, hformat, horder⟩ := detect?_by_last_extension hbare "/v1.0//a.json/..".toList
  have hdetect : builtin.detect? "nota.html.md".toList = some "markdown" :=
    (hformat "markdown").2 ⟨"nota.html".toList, "md".toList, ["md", "markdown"], by decide,
      by decide, by decide, by decide, by decide⟩
  exact ⟨hbare, hfolder.trans hdetect,
    (horder _ (List.reverse_perm builtin.values) _).trans hdetect⟩

end Registry

end ServiceCharter

import ServiceCharter.Proofs.Format.Detection
import ServiceCharter.Proofs.Table

/-!
# Registries after any number of additions

A registry is a map from names to formats: adding a format makes it stand for its name, and changes
nothing for the other names. After any number of additions a name therefore stands for the last
format that was added under it (`Registry.get?_addAll`), and everything that a registry answers for
a name is decided by that one format (`Registry.answers`). Nothing is left of a format that was
replaced.
-/

namespace ServiceCharter.Registry

/-- The registry with formats added one after another. -/
def addAll (r : Registry) (added : List Format) : Registry := added.foldl add r

/-- The format for which a name stands: the last that was added under it, or else the one for which
it stood before. -/
def latest? (r : Registry) (added : List Format) (name : String) : Option Format :=
  (added.filter fun f => f.name = name).getLast?.or (r.formats.get? name)

/-! ### Additions -/

/-- Every format stands under its name. -/
structure WellFormed (r : Registry) : Prop where
  sorted : r.formats.Sorted
  named : ∀ {name : String} {f : Format}, r.formats.get? name = some f → f.name = name

theorem wellFormed_empty : empty.WellFormed where
  sorted := List.Pairwise.nil
  named := fun h => nomatch h

theorem WellFormed.add {r : Registry} (h : r.WellFormed) (f : Format) : (r.add f).WellFormed where
  sorted := h.sorted.insert f.name f
  named := by
    intro name g hg
    rw [Registry.add, Table.get?_insert] at hg
    split at hg
    · next hname =>
      cases hg
      exact hname.symm
    · exact h.named hg

theorem WellFormed.addAll {r : Registry} (h : r.WellFormed) (added : List Format) :
    (r.addAll added).WellFormed := by
  induction added generalizing r with
  | nil => exact h
  | cons f added ih => exact ih (h.add f)

theorem wellFormed_builtin : builtin.WellFormed :=
  wellFormed_empty.addAll [.json, .markdown, .html .default, .plain]

/-- **A name stands for the last format that was added under it.** -/
theorem get?_addAll (r : Registry) (added : List Format) (name : String) :
    (r.addAll added).formats.get? name = r.latest? added name := by
  induction added using List.reverseRecOn with
  | nil => rfl
  | append_singleton added f ih =>
    have hlast : r.addAll (added ++ [f]) = (r.addAll added).add f := List.foldl_concat ..
    rw [hlast, Registry.add, Table.get?_insert, ih, latest?, latest?, List.filter_append]
    split
    · next hname => simp [hname]
    · next hname => simp [Ne.symm hname]

private theorem isSome_latest?_iff {r : Registry} {added : List Format} {name : String} :
    (r.latest? added name).isSome = true ↔ name ∈ r.names ∨ ∃ f ∈ added, f.name = name := by
  rw [latest?, Option.isSome_or, Bool.or_eq_true, Table.isSome_get?_iff, or_comm]
  refine or_congr_right ?_
  simp

/-! ### Answers -/

/-- What is done with the format for which a name stands, if there is one. -/
def withFormat {α : Type} (name : String) (use : Format → Except ServiceError α) :
    Option Format → Except ServiceError α
  | some f => use f
  | none => .error (.unknownFormat name)

/-- What a registry answers for a name that stands for a format, or for none. -/
structure Answers (r : Registry) (name : String) (f? : Option Format) : Prop where
  mem_names : name ∈ r.names ↔ f?.isSome = true
  contains : r.contains name = f?.isSome
  get : r.get name = withFormat name .ok f?
  read : ∀ source, r.read source name = withFormat name (fun f =>
    if f.reads then f.read source
    else .error (.unsupported s!"Format '{name}' does not support parsing")) f?
  writeWith : ∀ d parameters, r.writeWith d name parameters = withFormat name (fun f =>
    if f.writes then f.writeWith d parameters
    else .error (.unsupported s!"Format '{name}' does not support serialization")) f?
  write : ∀ d, r.write d name = r.writeWith d name []

theorem answers (r : Registry) (name : String) : r.Answers name (r.formats.get? name) := by
  have hget : r.get name = withFormat name .ok (r.formats.get? name) := by
    rw [Registry.get]
    cases r.formats.get? name <;> rfl
  refine ⟨Table.isSome_get?_iff.symm, rfl, hget, fun source => ?_, fun d parameters => ?_,
    fun d => rfl⟩
  · rw [Registry.read, hget]
    cases r.formats.get? name <;> rfl
  · rw [Registry.writeWith, hget]
    cases r.formats.get? name <;> rfl

theorem WellFormed.mem_values_iff {r : Registry} (h : r.WellFormed) {f : Format} :
    f ∈ r.values ↔ r.formats.get? f.name = some f := by
  have hentry : ∀ {name : String}, r.formats.get? name = some f ↔ (name, f) ∈ r.formats :=
    Table.get?_eq_some_iff h.sorted.nodup
  rw [values, List.mem_map, hentry]
  constructor
  · rintro ⟨⟨name, g⟩, hmem, rfl⟩
    have hname : g.name = name := h.named (hentry.2 hmem)
    rw [hname]
    exact hmem
  · exact fun hmem => ⟨_, hmem, rfl⟩

/-- **Of each name, the format that was added last counts, and no other.** From the empty registry
or that of the program, after any additions: the listed names ascend strictly, and are those from
before and those of the formats that were added. The last format of a name is what is found under
it, and reads and writes by itself in the directions in which it goes; the other directions are
refused in the format's name, and a name without a format is unknown. In whatever order the formats
are looked through for the extension of a file, a name is detected only if its last format has the
extension, and one is detected if any last format has it. So nothing is found through an extension
that only replaced formats had. -/
theorem last_added_counts {start : Registry} (hstart : start = empty ∨ start = builtin)
    (added : List Format) :
    (start.addAll added).names.Pairwise (· < ·) ∧
      (∀ name, name ∈ (start.addAll added).names ↔
        name ∈ start.names ∨ ∃ f ∈ added, f.name = name) ∧
      (∀ name, (start.addAll added).Answers name (start.latest? added name)) ∧
      (start.addAll added).detect? = detectAmong? (start.addAll added).values ∧
      ∀ formats : List Format, formats.Perm (start.addAll added).values → ∀ fileName,
        (∀ name, detectAmong? formats fileName = some name →
          ∃ f, start.latest? added name = some f ∧ f.Matches fileName) ∧
        ((detectAmong? formats fileName).isSome = true ↔
          ∃ name f, start.latest? added name = some f ∧ f.Matches fileName) := by
  have hwell : (start.addAll added).WellFormed := by
    rcases hstart with rfl | rfl
    · exact wellFormed_empty.addAll added
    · exact wellFormed_builtin.addAll added
  have hanswers : ∀ name, (start.addAll added).Answers name (start.latest? added name) :=
    fun name => get?_addAll start added name ▸ answers _ name
  refine ⟨hwell.sorted, fun name => ?_, hanswers, rfl, fun formats hperm fileName => ?_⟩
  · rw [(hanswers name).mem_names, isSome_latest?_iff]
  · have hmem : ∀ {f : Format}, f ∈ formats ↔ start.latest? added f.name = some f := fun {f} => by
      rw [hperm.mem_iff, hwell.mem_values_iff, get?_addAll]
    refine ⟨fun name hname => ?_, isSome_detectAmong?_iff.trans ⟨?_, ?_⟩⟩
    · obtain ⟨f, hf, rfl, hmatches⟩ := exists_of_detectAmong? hname
      exact ⟨f, hmem.1 hf, hmatches⟩
    · rintro ⟨f, hf, hmatches⟩
      exact ⟨f.name, f, hmem.1 hf, hmatches⟩
    · rintro ⟨name, f, hf, hmatches⟩
      obtain rfl : f.name = name := hwell.named (by rw [get?_addAll, hf])
      exact ⟨f, hmem.2 hf, hmatches⟩

/-- A format that writes what the program reads as `json`, and has other files. -/
def noteFormat : Format where
  name := "json"
  extensions := ["note"]
  writes := true
  write := fun d => .ok d.source

/-- The replies of the service give way to another format of that name. -/
theorem last_added_counts_noteFormat :
    (builtin = empty ∨ builtin = builtin) ∧
      (builtin.addAll [noteFormat]).names = ["html", "json", "markdown", "text"] ∧
      builtin.latest? [noteFormat] "json" = some noteFormat ∧
      (∀ t, (builtin.addAll [noteFormat]).read t "json" =
        .error (.unsupported "Format 'json' does not support parsing")) ∧
      (∀ d, (builtin.addAll [noteFormat]).write d "json" = .ok d.source) ∧
      (∀ t, (builtin.addAll [noteFormat]).read t "xml" = .error (.unknownFormat "xml")) ∧
      builtin.detect? "a.json".toList = some "json" ∧
      (builtin.addAll [noteFormat]).detect? "a.json".toList = none ∧
      (builtin.addAll [noteFormat]).detect? "a.note".toList = some "json" := by
  obtain ⟨-, -, hanswers, -, -⟩ := last_added_counts (.inr rfl) [noteFormat]
  have hlatest : builtin.latest? [noteFormat] "json" = some noteFormat := rfl
  have hjson := hanswers "json"
  have hxml := hanswers "xml"
  refine ⟨.inr rfl, by decide, hlatest, fun t => ?_, fun d => ?_, fun t => ?_, by decide, by decide,
    by decide⟩
  · rw [hjson.read, hlatest]
    rfl
  · rw [hjson.write, hjson.writeWith, hlatest]
    rfl
  · rw [hxml.read]
    rfl

end ServiceCharter.Registry

import Mathlib.Data.List.Basic
import ServiceCharter.Proofs.Document.Sections
import ServiceCharter.Proofs.Table

/-!
# What a document tells about the values

A document shows the texts of its fields and nothing else. It is the same for values with the same
texts, so members that give no field a text do not show in it, nor does the order of the members.
The other way round, the texts can be told from the document (`compile_eq_iff`), if no line of a
text looks like the heading of a section and the text without a heading is known.

The document is looked at line by line, with an empty line behind each section
(`sectionLines_of_compile`). The heading line of a section then stands in one place only, and cuts
the lines in what belongs to earlier sections and what belongs to this one and later ones. Going
through the catalogue, this gives the texts one by one, if what stands before the first section is
carried along (`texts_eq_of_sectionLines`).
-/

namespace ServiceCharter

open Text

/-! ### The lines of a document -/

/-- The lines of a section, with an empty line behind them. -/
def Field.sectionLines (f : Field) (t : Text) : List Text := lines (f.section t) ++ [[]]

/-- Texts that are joined by an empty line are cut at the empty line. -/
theorem lines_intercalate_empty_line {ts : List Text} (hne : ts ≠ []) :
    lines (['\n', '\n'].intercalate ts) ++ [[]] = ts.flatMap fun t => lines t ++ [[]] := by
  induction ts with
  | nil => exact absurd rfl hne
  | cons t ts ih =>
    rw [List.flatMap_cons]
    rcases eq_or_ne ts [] with rfl | hts
    · simp
    · have hjoin : ['\n', '\n'].intercalate (t :: ts) =
          t ++ '\n' :: '\n' :: ['\n', '\n'].intercalate ts := by
        rw [List.intercalate_cons_of_ne_nil hts]
        simp
      rw [hjoin, lines_append_newline, lines_newline_cons, ← ih hts]
      simp

theorem Field.newline_notMem_headingLine (f : Field) : '\n' ∉ f.headingLine := by
  cases f <;> decide

theorem Field.headingLine_ne_nil (f : Field) : f.headingLine ≠ [] := f.solid_headingLine.ne_nil

theorem Field.headingLine_injective {f g : Field} (h : f.headingLine = g.headingLine) : f = g := by
  revert h
  cases f <;> cases g <;> decide

theorem Field.sectionLines_of_isVerbatim {f : Field} (h : f.isVerbatim = true) (t : Text) :
    f.sectionLines t = lines t ++ [[]] := by
  rw [sectionLines, section_of_isVerbatim h]

/-- The lines of a section behind its heading line. -/
def bodyLines (t : Text) : List Text := [] :: (lines t ++ [[]])

private theorem bodyLines_injective {t u : Text} (h : bodyLines t = bodyLines u) : t = u := by
  have hlines : lines t = lines u := by simpa [bodyLines] using h
  rw [← intercalate_lines t, hlines, intercalate_lines]

theorem Field.sectionLines_of_not_isVerbatim {f : Field} (h : f.isVerbatim = false) (t : Text) :
    f.sectionLines t = f.headingLine :: bodyLines t := by
  have hsection : f.section t = f.headingLine ++ '\n' :: '\n' :: t := by
    rw [section_of_not_isVerbatim h]
    simp
  rw [sectionLines, hsection, lines_append_newline, lines_newline_cons,
    lines_of_not_mem f.newline_notMem_headingLine]
  rfl

namespace FieldValues

/-- **The lines of a document are those of its sections**, with an empty line behind each. -/
theorem sectionLines_of_compile (values : FieldValues) :
    values.overTexts Field.all Field.sectionLines =
      if values.compile.source = [] then [] else lines values.compile.source ++ [[]] := by
  have hsections : values.overTexts Field.all Field.sectionLines =
      (values.sectionsOf Field.all).flatMap fun s => lines s ++ [[]] := by
    induction Field.all with
    | nil => rfl
    | cons f fields ih =>
      cases ht : values.text? f with
      | none => rw [overTexts_cons_of_none ht, sectionsOf_cons_of_none ht, ih]
      | some t =>
        rw [overTexts_cons_of_some ht, sectionsOf_cons_of_some ht, ih, List.flatMap_cons]
        rfl
  rw [hsections, compile_source]
  rcases eq_or_ne (values.sectionsOf Field.all) [] with hnil | hne
  · simp [hnil]
  · have hsolid := solid_intercalate ['\n', '\n'] hne fun _ hs => solid_of_mem_sectionsOf hs
    have hsource := hsolid.ne_nil
    rw [if_neg hsource, lines_intercalate_empty_line hne]

/-! ### Telling the texts from the lines -/

/-- No line of a text of the values is the heading line of a field. -/
def HasNoHeadings (values : FieldValues) : Prop :=
  ∀ f, ∀ t ∈ values.text? f, ∀ k : Field, k.headingLine ∉ lines t

instance (values : FieldValues) : Decidable values.HasNoHeadings :=
  decidable_of_iff (∀ f ∈ Field.all, ∀ t ∈ values.text? f, ∀ k ∈ Field.all,
      (lines t).contains k.headingLine = false) <| by
    simp [HasNoHeadings, Field.mem_all]

theorem HasNoHeadings.notMem_lines {values : FieldValues} (h : values.HasNoHeadings) {f : Field}
    {t : Text} (ht : values.text? f = some t) (k : Field) : k.headingLine ∉ lines t ++ [[]] := by
  simp [h f t ht k, k.headingLine_ne_nil]

theorem HasNoHeadings.notMem_bodyLines {values : FieldValues} (h : values.HasNoHeadings) {f : Field}
    {t : Text} (ht : values.text? f = some t) (k : Field) : k.headingLine ∉ bodyLines t := by
  intro hk
  rcases List.mem_cons.1 hk with hnil | hlines
  · exact k.headingLine_ne_nil hnil
  · exact h.notMem_lines ht k hlines

/-- A heading line does not stand in the sections of other fields. -/
theorem HasNoHeadings.notMem_overTexts {values : FieldValues} (h : values.HasNoHeadings) {k : Field}
    {fields : List Field} (hk : k ∉ fields) :
    k.headingLine ∉ values.overTexts fields Field.sectionLines := by
  intro hmem
  obtain ⟨f, hf, t, ht, hline⟩ := mem_overTexts.1 hmem
  rcases Bool.eq_false_or_eq_true f.isVerbatim with hv | hv
  · rw [Field.sectionLines_of_isVerbatim hv] at hline
    exact h.notMem_lines ht k hline
  · rw [Field.sectionLines_of_not_isVerbatim hv] at hline
    rcases List.mem_cons.1 hline with heq | hline
    · exact hk (Field.headingLine_injective heq ▸ hf)
    · exact h.notMem_bodyLines ht k hline

/-- A heading line stands among the lines of sections exactly if its field has a text. -/
theorem HasNoHeadings.headingLine_mem_iff {values : FieldValues} (h : values.HasNoHeadings)
    {k : Field} (hv : k.isVerbatim = false) {fields : List Field} (hk : k ∉ fields)
    {front : List Text} (hfront : k.headingLine ∉ front) :
    k.headingLine ∈ front ++ values.overTexts (k :: fields) Field.sectionLines ↔
      (values.text? k).isSome := by
  cases ht : values.text? k with
  | none =>
    rw [overTexts_cons_of_none ht]
    simp [hfront, h.notMem_overTexts hk]
  | some t =>
    rw [overTexts_cons_of_some ht, Field.sectionLines_of_not_isVerbatim hv]
    simp

variable {f g : FieldValues}

/-- The heading line of a section cuts the lines in what stands in front of the section and what
stands behind the heading. -/
private theorem eq_of_headed_section (hf : f.HasNoHeadings) {k : Field} (hv : k.isVerbatim = false)
    {fields : List Field} (hk : k ∉ fields) {t u : Text} (ht : f.text? k = some t)
    (hu : g.text? k = some u) {front front' : List Text} (hfront : k.headingLine ∉ front)
    (heq : front ++ f.overTexts (k :: fields) Field.sectionLines =
      front' ++ g.overTexts (k :: fields) Field.sectionLines) :
    front = front' ∧ bodyLines t ++ f.overTexts fields Field.sectionLines =
      bodyLines u ++ g.overTexts fields Field.sectionLines := by
  rw [overTexts_cons_of_some ht, overTexts_cons_of_some hu,
    Field.sectionLines_of_not_isVerbatim hv, Field.sectionLines_of_not_isVerbatim hv] at heq
  have hbehind : k.headingLine ∉ bodyLines t ++ f.overTexts fields Field.sectionLines := fun hmem =>
    (List.mem_append.1 hmem).elim (hf.notMem_bodyLines ht k) (hf.notMem_overTexts hk)
  obtain ⟨hsame, -, hrest⟩ := (List.append_cons_inj_of_notMem hfront hbehind).1 heq
  exact ⟨hsame, hrest⟩

/-- **The lines of sections tell the texts**, and what stands in front of the sections, if the
fields are different, no text holds a heading line, and the texts without heading are known. -/
theorem texts_eq_of_sectionLines (hf : f.HasNoHeadings) (hg : g.HasNoHeadings)
    {fields : List Field} (hnodup : fields.Nodup)
    (hverbatim : ∀ k ∈ fields, k.isVerbatim = true → f.text? k = g.text? k)
    {front front' : List Text} (hfront : ∀ k ∈ fields, k.headingLine ∉ front)
    (hfront' : ∀ k ∈ fields, k.headingLine ∉ front')
    (heq : front ++ f.overTexts fields Field.sectionLines =
      front' ++ g.overTexts fields Field.sectionLines) :
    front = front' ∧ ∀ k ∈ fields, f.text? k = g.text? k := by
  induction fields generalizing front front' with
  | nil => exact ⟨by simpa [overTexts] using heq, fun _ h => absurd h List.not_mem_nil⟩
  | cons k fields ih =>
    obtain ⟨hk, hnodup⟩ := List.nodup_cons.1 hnodup
    obtain ⟨hkverbatim, hverbatim⟩ := List.forall_mem_cons.1 hverbatim
    obtain ⟨hkfront, hfront⟩ := List.forall_mem_cons.1 hfront
    obtain ⟨hkfront', hfront'⟩ := List.forall_mem_cons.1 hfront'
    rw [List.forall_mem_cons]
    rcases Bool.eq_false_or_eq_true k.isVerbatim with hv | hv
    · have htext : f.text? k = g.text? k := hkverbatim hv
      cases ht : f.text? k with
      | none =>
        have hu : g.text? k = none := htext ▸ ht
        rw [overTexts_cons_of_none ht, overTexts_cons_of_none hu] at heq
        obtain ⟨hsame, hrest⟩ := ih hnodup hverbatim hfront hfront' heq
        exact ⟨hsame, hu.symm, hrest⟩
      | some t =>
        -- The text is the same on both sides, so it counts as part of what stands in front.
        have hu : g.text? k = some t := htext ▸ ht
        have hlines := hf.notMem_lines ht
        rw [overTexts_cons_of_some ht, overTexts_cons_of_some hu, ← List.append_assoc,
          ← List.append_assoc, Field.sectionLines_of_isVerbatim hv] at heq
        obtain ⟨hsame, hrest⟩ := ih hnodup hverbatim
          (fun k' hk' hmem => (List.mem_append.1 hmem).elim (hfront k' hk') (hlines k'))
          (fun k' hk' hmem => (List.mem_append.1 hmem).elim (hfront' k' hk') (hlines k')) heq
        exact ⟨List.append_cancel_right hsame, hu.symm, hrest⟩
    · have hpresent : (f.text? k).isSome ↔ (g.text? k).isSome := by
        rw [← hf.headingLine_mem_iff hv hk hkfront, heq, hg.headingLine_mem_iff hv hk hkfront']
      cases ht : f.text? k with
      | none =>
        have hu : g.text? k = none := by simpa [ht] using hpresent
        rw [overTexts_cons_of_none ht, overTexts_cons_of_none hu] at heq
        obtain ⟨hsame, hrest⟩ := ih hnodup hverbatim hfront hfront' heq
        exact ⟨hsame, hu.symm, hrest⟩
      | some t =>
        obtain ⟨u, hu⟩ := Option.isSome_iff_exists.1 (hpresent.1 (by rw [ht]; rfl))
        obtain ⟨hsame, hbodies⟩ := eq_of_headed_section hf hv hk ht hu hkfront heq
        obtain ⟨hbody, hrest⟩ := ih hnodup hverbatim (fun k' _ => hf.notMem_bodyLines ht k')
          (fun k' _ => hg.notMem_bodyLines hu k') hbodies
        exact ⟨hsame, by rw [hu, bodyLines_injective hbody], hrest⟩

/-! ### What does not show -/

/-- The values with a member stored. -/
def store (values : FieldValues) (name : String) (v : Json.Value) : FieldValues :=
  ⟨values.members.insert name v⟩

/-- The values without a member. -/
def erase (values : FieldValues) (name : String) : FieldValues := ⟨values.members.erase name⟩

/-- **A document does not tell more than the texts.** -/
theorem compile_congr (h : ∀ k, f.text? k = g.text? k) : f.compile = g.compile := by
  have hsections : f.sections = g.sections := List.filterMap_congr fun k _ => by rw [h k]
  rw [compile, compile, hsections]

/-- A member under the key of no field makes no difference to the texts. -/
private theorem text?_store_of_ofKey? (values : FieldValues) {name : String}
    (h : Field.ofKey? name = none) (v : Json.Value) (k : Field) :
    (values.store name v).text? k = values.text? k := by
  have hne : k.key ≠ name := by
    rintro rfl
    rw [Field.ofKey?_key] at h
    cases h
  rw [text?, text?, store, Table.get?_insert, if_neg hne]

/-- A member that contributes nothing is like none. -/
private theorem text?_store_of_contribution (values : FieldValues) (name : String) {v : Json.Value}
    (h : contribution v = []) (k : Field) :
    (values.store name v).text? k = (values.erase name).text? k := by
  rw [text?, text?, store, erase, Table.get?_insert, Table.get?_erase]
  split
  · simp [h]
  · rfl

/-- The order in which members with different keys are listed makes no difference. -/
private theorem text?_ofList_of_perm {l l' : List (String × Json.Value)} (h : l.Perm l')
    (hl : (l.map Prod.fst).Nodup) (k : Field) :
    text? ⟨Table.ofList l⟩ k = text? ⟨Table.ofList l'⟩ k := by
  have hl' : (l'.map Prod.fst).Nodup := (h.map Prod.fst).nodup_iff.1 hl
  have hget : Table.get? (Table.ofList l) k.key = Table.get? (Table.ofList l') k.key := by
    refine Option.ext fun v => ?_
    rw [Table.ofList, Table.ofList, Table.get?_foldl_insert hl, Table.get?_foldl_insert hl',
      Table.get?_nil, Option.or_none, Option.or_none, Table.get?_eq_some_iff hl,
      Table.get?_eq_some_iff hl', h.mem_iff]
  rw [text?, text?, hget]

/-! ### Documents and texts -/

/-- **A document determines the texts of its sections, and shows nothing else.** Values of which no
text holds the heading line of a field, and which agree about the complete description, which comes
without a heading, make the same document exactly if they have the same texts. So members under the
keys of no field, members that contribute no text and the order of the members never show. -/
theorem compile_eq_iff (hverbatim : f.text? .description = g.text? .description)
    (hf : f.HasNoHeadings) (hg : g.HasNoHeadings) :
    (f.compile = g.compile ↔ ∀ k, f.text? k = g.text? k) ∧
    (∀ name v, Field.ofKey? name = none → (f.store name v).compile = f.compile) ∧
    (∀ name v, contribution v = [] → (f.store name v).compile = (f.erase name).compile) ∧
    ∀ l l' : List (String × Json.Value), l.Perm l' → (l.map Prod.fst).Nodup →
      compile ⟨Table.ofList l⟩ = compile ⟨Table.ofList l'⟩ := by
  refine ⟨⟨fun heq k => ?_, compile_congr⟩,
    fun name v hname => compile_congr (f.text?_store_of_ofKey? hname v),
    fun name v hv => compile_congr (f.text?_store_of_contribution name hv),
    fun l l' hperm hl => compile_congr (text?_ofList_of_perm hperm hl)⟩
  have hlines : [] ++ f.overTexts Field.all Field.sectionLines =
      [] ++ g.overTexts Field.all Field.sectionLines := by
    rw [sectionLines_of_compile, sectionLines_of_compile, heq]
  have hknown : ∀ k ∈ Field.all, k.isVerbatim = true → f.text? k = g.text? k := by
    intro k _ hk
    cases k with
    | description => exact hverbatim
    | _ => cases hk
  have hnodup : Field.all.Nodup := by decide
  exact (texts_eq_of_sectionLines hf hg hnodup hknown (fun _ _ => List.not_mem_nil)
    (fun _ _ => List.not_mem_nil) hlines).2 k k.mem_all

/-- Values with a complete description that has a heading of its own. -/
def sampleValues : FieldValues :=
  ⟨Table.ofList
    [("custo", .string "- 5\n\n- 6"), ("descricao_completa", .string "## Prazo\n\nUm")]⟩

/-- Such values with a longer text, a blank one and an unknown member. -/
def otherValues : FieldValues :=
  ⟨Table.ofList
    [("x", .string "y"), ("descricao_completa", .string "## Prazo\n\nUm "),
      ("canais_digitais", .string " "), ("custo", .string "- 5\n\n- 6\n\n- 7")]⟩

/-- The two samples agree about the complete description, but not about the costs. -/
theorem compile_sampleValues_ne :
    (sampleValues.text? .description = otherValues.text? .description ∧
      sampleValues.HasNoHeadings ∧ otherValues.HasNoHeadings) ∧
    sampleValues.compile ≠ otherValues.compile := by
  have hverbatim : sampleValues.text? .description = otherValues.text? .description := by decide
  have hf : sampleValues.HasNoHeadings := by decide
  have hg : otherValues.HasNoHeadings := by decide
  refine ⟨⟨hverbatim, hf, hg⟩, fun heq => ?_⟩
  have hcost : sampleValues.text? .cost = otherValues.text? .cost :=
    (compile_eq_iff hverbatim hf hg).1.1 heq .cost
  exact absurd hcost (by decide)

end FieldValues

end ServiceCharter

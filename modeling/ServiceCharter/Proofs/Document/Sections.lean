import ServiceCharter.Document
import ServiceCharter.Proofs.Text.Pieces

/-!
# The sections of a document

A document is its sections with one empty line between neighbours, and nothing else: the final
trimming never takes anything off (`compile_source`). The reason is that every section is solid. The
text of a field is either a trimmed string, or a numeral, in which no character is white space
(`unbroken_toText`); and a heading line begins with its marker.
-/

namespace ServiceCharter

open Text

/-! ### Numerals -/

private theorem unbroken_toDigits (n : Nat) : Unbroken (Nat.toDigits 10 n) :=
  unbroken_iff.2 fun _ hc =>
    not_isBlank_of_isDigit (Nat.isDigit_of_mem_toDigits (by decide) (by decide) hc)

private theorem unbroken_zeros (n : Nat) : Unbroken (Decimal.Layout.zeros n) := by
  refine unbroken_iff.2 fun c hc => ?_
  rw [List.eq_of_mem_replicate hc]
  decide

namespace Decimal.Layout

/-- Positional notation brings in zeros and a point, and no white space. -/
private theorem unbroken_positional {l : Layout} {ds : Text} (hds : Unbroken ds) (x : Int) :
    Unbroken (l.positional ds x) := by
  have hpoint : Unbroken ['0', '.'] := by decide
  unfold positional
  split
  · simp only [unbroken_append]
    exact ⟨⟨hpoint, unbroken_zeros _⟩, hds⟩
  · simp only []
    split
    · have htail : Unbroken (if l.pointZero then ['.', '0'] else []) := by
        split <;> decide
      simp only [unbroken_append]
      exact ⟨⟨hds, unbroken_zeros _⟩, htail⟩
    · simp only [unbroken_append]
      exact ⟨⟨hds.of_subset (List.take_subset _ _), by decide⟩,
        hds.of_subset (List.drop_subset _ _)⟩

/-- Scientific notation brings in a point, the exponent mark and a sign. -/
private theorem unbroken_scientific {ds : Text} (hds : Unbroken ds) (x : Int) :
    Unbroken (scientific ds x) := by
  have hpoint : Unbroken (if ds.length ≤ 1 then [] else ['.']) := by
    split <;> decide
  have hmark : Unbroken ['e'] := by decide
  have hsign : Unbroken (if x < 0 then ['-'] else ['+']) := by
    split <;> decide
  simp only [scientific, unbroken_append]
  exact ⟨⟨⟨⟨⟨hds.of_subset (List.take_subset _ _), hpoint⟩,
    hds.of_subset (List.drop_subset _ _)⟩, hmark⟩, hsign⟩, unbroken_toDigits _⟩

/-- No layout puts white space into a number. -/
theorem unbroken_write (l : Layout) (bits : UInt64) : Unbroken (l.write bits).toList := by
  have hsign : Unbroken (if isNegative bits then ['-'] else []) := by
    split <;> decide
  have hmag : Unbroken (l.magnitude bits) := by
    unfold magnitude
    simp only []
    split
    · exact unbroken_positional (unbroken_toDigits _) _
    · exact unbroken_scientific (unbroken_toDigits _) _
  unfold write
  simp only []
  split
  · simp only [String.toList_ofList, unbroken_append]
    exact ⟨hsign, hmag⟩
  · split
    · simp only [String.toList_ofList, unbroken_append]
      exact ⟨hsign, by decide⟩
    · decide

end Decimal.Layout

/-- No numeral of JSON holds white space. -/
theorem Json.Number.unbroken_toText (n : Json.Number) : Unbroken n.toText := by
  cases n with
  | double bits => exact Json.numberLayout.unbroken_write bits
  | integer n =>
    simp only [toText, Int.toString_eq_repr, Int.repr_eq_if]
    split
    · simp only [Nat.toList_repr]
      exact unbroken_toDigits _
    · have hsign : Unbroken "-".toList := by decide
      simp only [String.toList_append, Nat.toList_repr, unbroken_append]
      exact ⟨hsign, unbroken_toDigits _⟩

/-! ### Sections -/

namespace FieldValues

/-- What a value contributes is solid, or nothing. -/
theorem contribution_eq_nil_or_solid (v : Json.Value) :
    contribution v = [] ∨ Solid (contribution v) := by
  cases v with
  | string s =>
    rcases Bool.eq_false_or_eq_true (allBlank s.toList) with h | h
    · exact Or.inl (trim_of_allBlank h)
    · exact Or.inr (solid_trim h)
  | number n =>
    by_cases hnil : n.toText = []
    · exact Or.inl hnil
    · exact Or.inr (n.unbroken_toText.solid hnil)
  | _ => exact Or.inl rfl

/-- The text of a field begins and ends with characters that are not white space. -/
theorem solid_of_text? {values : FieldValues} {f : Field} {t : Text}
    (h : values.text? f = some t) : Solid t := by
  have hne := ne_nil_of_text? h
  obtain ⟨hmap, -⟩ := Option.filter_eq_some_iff.1 h
  obtain ⟨v, -, rfl⟩ := Option.map_eq_some_iff.1 hmap
  exact (contribution_eq_nil_or_solid v).resolve_left hne

end FieldValues

/-- The heading line of a field. -/
def Field.headingLine (f : Field) : Text := ['#', '#', ' '] ++ f.title.toList

theorem Field.solid_title (f : Field) : Solid f.title.toList := by
  constructor
  · cases f <;> exact ⟨_, _, rfl, by decide⟩
  · refine ⟨f.title.toList.dropLast, f.title.toList.getLast (by cases f <;> decide), ?_, ?_⟩
    · exact (List.dropLast_append_getLast _).symm
    · cases f <;> decide

theorem Field.solid_headingLine (f : Field) : Solid f.headingLine := by
  obtain ⟨rest, c, hlast, hc⟩ := f.solid_title.last
  refine ⟨⟨'#', '#' :: ' ' :: f.title.toList, rfl, by decide⟩, ['#', '#', ' '] ++ rest, c, ?_, hc⟩
  rw [headingLine, hlast, List.append_assoc]

theorem Field.section_of_isVerbatim {f : Field} (h : f.isVerbatim = true) (t : Text) :
    f.section t = t := by
  simp [Field.section, h]

theorem Field.section_of_not_isVerbatim {f : Field} (h : f.isVerbatim = false) (t : Text) :
    f.section t = f.headingLine ++ ['\n', '\n'] ++ t := by
  simp [Field.section, h, headingLine]

theorem Field.solid_section (f : Field) {t : Text} (h : Solid t) : Solid (f.section t) := by
  rcases Bool.eq_false_or_eq_true f.isVerbatim with hv | hv
  · rwa [section_of_isVerbatim hv]
  · rw [section_of_not_isVerbatim hv]
    exact f.solid_headingLine.append h _

namespace FieldValues

/-- The sections of those of the given fields that have a text. -/
def sectionsOf (values : FieldValues) (fields : List Field) : List Text :=
  fields.filterMap fun f => (values.text? f).map f.section

theorem sectionsOf_all (values : FieldValues) : values.sectionsOf Field.all = values.sections :=
  rfl

theorem sectionsOf_cons_of_none {values : FieldValues} {f : Field} (h : values.text? f = none)
    (fields : List Field) : values.sectionsOf (f :: fields) = values.sectionsOf fields := by
  simp [sectionsOf, h]

theorem sectionsOf_cons_of_some {values : FieldValues} {f : Field} {t : Text}
    (h : values.text? f = some t) (fields : List Field) :
    values.sectionsOf (f :: fields) = f.section t :: values.sectionsOf fields := by
  simp [sectionsOf, h]

theorem solid_of_mem_sectionsOf {values : FieldValues} {fields : List Field} {s : Text}
    (h : s ∈ values.sectionsOf fields) : Solid s := by
  obtain ⟨f, -, hf⟩ := List.mem_filterMap.1 h
  obtain ⟨t, ht, rfl⟩ := Option.map_eq_some_iff.1 hf
  exact f.solid_section (solid_of_text? ht)

/-- What `g` makes of the texts of the given fields, for those of them that have one. -/
def overTexts {α : Type} (values : FieldValues) (fields : List Field)
    (g : Field → Text → List α) : List α :=
  fields.flatMap fun f => (values.text? f).elim [] (g f)

section OverTexts

variable {α : Type} {values : FieldValues} {f : Field} {g : Field → Text → List α}

theorem overTexts_cons_of_none (h : values.text? f = none) (fields : List Field) :
    values.overTexts (f :: fields) g = values.overTexts fields g := by
  simp [overTexts, h]

theorem overTexts_cons_of_some {t : Text} (h : values.text? f = some t) (fields : List Field) :
    values.overTexts (f :: fields) g = g f t ++ values.overTexts fields g := by
  simp [overTexts, h]

theorem mem_overTexts {a : α} {fields : List Field} :
    a ∈ values.overTexts fields g ↔ ∃ f ∈ fields, ∃ t, values.text? f = some t ∧ a ∈ g f t := by
  unfold overTexts
  rw [List.mem_flatMap]
  refine exists_congr fun f => and_congr_right fun _ => ?_
  cases values.text? f <;> simp

theorem map_overTexts {β : Type} (h : α → β) (fields : List Field) :
    (values.overTexts fields g).map h = values.overTexts fields fun f t => (g f t).map h := by
  unfold overTexts
  rw [List.map_flatMap]
  refine List.flatMap_congr fun f _ => ?_
  cases values.text? f <;> rfl

theorem flatten_overTexts {g : Field → Text → List (List α)} (fields : List Field) :
    (values.overTexts fields g).flatten = values.overTexts fields fun f t => (g f t).flatten := by
  induction fields with
  | nil => rfl
  | cons f fields ih =>
    cases ht : values.text? f with
    | none => rw [overTexts_cons_of_none ht, overTexts_cons_of_none ht, ih]
    | some t =>
      rw [overTexts_cons_of_some ht, overTexts_cons_of_some ht, List.flatten_append, ih]

end OverTexts

/-- **A document is its sections with one empty line between neighbours.** -/
theorem compile_source (values : FieldValues) :
    values.compile.source = ['\n', '\n'].intercalate (values.sectionsOf Field.all) := by
  rw [sectionsOf_all, compile]
  -- Sections are solid, so the document is, unless there are none.
  rcases eq_or_ne values.sections [] with hnil | hne
  · simp [hnil]
  · exact (solid_intercalate _ hne fun s hs => solid_of_mem_sectionsOf hs).trim_eq

end FieldValues

end ServiceCharter

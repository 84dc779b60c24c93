import ServiceCharter.Proofs.Document.Sections
import ServiceCharter.Proofs.Markup.Leaves

/-!
# Display trees of composed sources

An empty line separates whatever stands before it from whatever stands behind it: the display tree
of two sources with at least two line feeds between them is the tree of the first followed by the
tree of the second (`displayTree_append_replicate`). A document is composed in this way of heading
lines and field texts, so its tree is put together section by section (`displayTree_compile`).
-/

namespace ServiceCharter.Markup

open Text

/-! ### Empty lines -/

theorem blocks_append_blank (l₁ l₂ : List Line) :
    blocks (l₁ ++ .blank :: l₂) = blocks l₁ ++ blocks l₂ := by
  have hsplit : (l₁ ++ .blank :: l₂).splitOn Line.blank =
      l₁.splitOn Line.blank ++ l₂.splitOn Line.blank :=
    List.splitOn_append_cons_self l₁ l₂
  rw [blocks, hsplit, List.filter_append]
  rfl

/-- Lines without a blank one among them are one block. -/
theorem blocks_of_forall_ne_blank {ls : List Line} (hne : ls ≠ []) (h : ∀ l ∈ ls, l ≠ .blank) :
    blocks ls = [ls] := by
  rw [blocks, List.splitOn_eq_singleton fun hmem => h .blank hmem rfl]
  simp [hne]

/-- The display tree by way of the class of each line. -/
theorem displayTree_eq (source : Text) :
    displayTree source =
      prune ((blocks ((lines source).map Line.classOf)).flatMap blockNodes) := by
  rw [displayTree, blocks_classify]

private theorem prune_append (nodes nodes' : List Node) :
    prune (nodes ++ nodes') = prune nodes ++ prune nodes' :=
  List.filter_append nodes nodes'

/-- **An empty line separates two sources.** -/
theorem displayTree_append_empty_line (a b : Text) :
    displayTree (a ++ '\n' :: '\n' :: b) = displayTree a ++ displayTree b := by
  simp only [displayTree_eq]
  rw [lines_append_newline, lines_newline_cons, List.map_append, List.map_cons, Line.classOf_nil,
    blocks_append_blank, List.flatMap_append, prune_append]

@[simp] theorem displayTree_nil : displayTree [] = [] := rfl

/-- Line feeds before a source do not show. -/
theorem displayTree_newline_cons (b : Text) : displayTree ('\n' :: b) = displayTree b := by
  simp only [displayTree_eq]
  rw [lines_newline_cons, List.map_cons, Line.classOf_nil, ← List.nil_append (Line.blank :: _),
    blocks_append_blank]
  rfl

private theorem displayTree_replicate_append (n : Nat) (b : Text) :
    displayTree (List.replicate n '\n' ++ b) = displayTree b := by
  induction n with
  | zero => rfl
  | succ n ih => rw [List.replicate_succ, List.cons_append, displayTree_newline_cons, ih]

/-- Two line feeds or more separate two sources. -/
theorem displayTree_append_replicate (a b : Text) (n : Nat) :
    displayTree (a ++ List.replicate (n + 2) '\n' ++ b) = displayTree a ++ displayTree b := by
  rw [List.replicate_succ, List.replicate_succ, List.append_assoc, List.cons_append,
    List.cons_append, displayTree_append_empty_line, displayTree_replicate_append]

/-- Line feeds behind a source do not show. -/
theorem displayTree_append_newlines (a : Text) (n : Nat) :
    displayTree (a ++ List.replicate n '\n') = displayTree a := by
  have hone : ∀ a : Text, displayTree (a ++ ['\n']) = displayTree a := by
    intro a
    simp only [displayTree_eq]
    rw [lines_append_newline, List.map_append, show lines [] = [[]] from rfl, List.map_singleton,
      Line.classOf_nil, blocks_append_blank, show blocks [] = [] from rfl, List.append_nil]
  induction n generalizing a with
  | zero => rw [List.replicate_zero, List.append_nil]
  | succ n ih => rw [List.replicate_succ, List.append_cons, ih, hone]

/-! ### Sources that show something -/

/-- A source that is not all white space has something to show. -/
theorem displayTree_ne_nil {source : Text} (h : allBlank source = false) :
    displayTree source ≠ [] := by
  intro hnil
  -- Some line of the source has an essence, and an empty tree has no leaf to go with it.
  have hessences := filterMap_essence?_leaves_displayTree source
  rw [hnil] at hessences
  obtain ⟨t, ht, hblank⟩ := exists_line_of_not_allBlank h
  have hnone : (Line.classOf t).essence? = none := List.filterMap_eq_nil_iff.1 hessences.symm t ht
  have hsome := Line.isSome_essence?_classOf t
  rw [hnone, hblank] at hsome
  cases hsome

/-- A text without delimiters is one plain piece. -/
theorem inlines_of_not_mem {t : Text} (h : '*' ∉ t) : inlines t = plain t := by
  have hcut : cutAtDelimiter? t = none := by
    induction t with
    | nil => rfl
    | cons c t ih =>
      simp only [List.mem_cons, not_or] at h
      unfold cutAtDelimiter?
      split
      · exact absurd rfl h.1
      · rw [ih h.2]
        rfl
  rw [inlines]
  split
  · rfl
  · next hbold => simp [firstBold?, hcut] at hbold

/-! ### Documents -/

/-- The title of a field is one plain line, and stands without bold spans. -/
private theorem not_mem_title (f : Field) : '\n' ∉ f.title.toList ∧ '*' ∉ f.title.toList := by
  cases f <;> decide

/-- A heading line shows the title and nothing else. -/
theorem displayTree_headingLine (f : Field) :
    displayTree f.headingLine = [.heading [.text f.title.toList]] := by
  obtain ⟨hline, hstar⟩ := not_mem_title f
  have hlines : lines f.headingLine = [f.headingLine] :=
    lines_of_not_mem (by simpa [Field.headingLine] using hline)
  obtain ⟨c, rest, htitle, hc⟩ := f.solid_title.head
  have hcontent : headingContent? f.headingLine = some f.title.toList := by
    have hblank : isBlank ' ' = true := by decide
    rw [Field.headingLine, htitle]
    simp [headingContent?, contentAfter?, hblank, trimStart_cons_of_not_isBlank hc]
  have hclass : Line.classOf f.headingLine = .heading f.title.toList := by
    have hne : Line.ofText f.headingLine = .text f.headingLine := rfl
    rw [Line.classOf, hne]
    simp [Line.reclassify, hcontent]
  have hinlines : inlines f.title.toList = [.text f.title.toList] := by
    rw [inlines_of_not_mem hstar, htitle]
    rfl
  -- A heading alone in its block is not touched by what happens to blocks.
  rw [displayTree_eq, hlines, List.map_singleton, hclass,
    blocks_of_forall_ne_blank (List.cons_ne_nil _ _) (by simp)]
  simp [blockNodes, trimEdges, trimLastLine, gatherBullets, gatherRemaining,
    gather, closeRun, enclose, prune, Line.isBlankText, Line.trimStart, Line.trimEnd,
    Line.bulletText?, Element.itemText?, Element.node?, Node.standsAlone, Node.isEmptyParagraph,
    hinlines]

end ServiceCharter.Markup

namespace ServiceCharter

open Text Markup

/-- The heading of a field as it is shown; a verbatim field has none. -/
def Field.headingNodes (f : Field) : List Node :=
  if f.isVerbatim then [] else [.heading [.text f.title.toList]]

/-- A section shows the heading of its field and then the text. -/
theorem Field.displayTree_section (f : Field) (t : Text) :
    displayTree (f.section t) = f.headingNodes ++ displayTree t := by
  rcases Bool.eq_false_or_eq_true f.isVerbatim with hv | hv
  · simp [section_of_isVerbatim hv, headingNodes, hv]
  · rw [section_of_not_isVerbatim hv, headingNodes, hv, List.append_assoc, List.cons_append,
      List.cons_append, displayTree_append_empty_line, displayTree_headingLine]
    rfl

namespace FieldValues

/-- The display tree of sections with empty lines between them. -/
private theorem displayTree_intercalate_sections (values : FieldValues) (fields : List Field) :
    displayTree (['\n', '\n'].intercalate (values.sectionsOf fields)) =
      values.overTexts fields fun f t => f.headingNodes ++ displayTree t := by
  induction fields with
  | nil => rfl
  | cons f fields ih =>
    cases ht : values.text? f with
    | none => rw [sectionsOf_cons_of_none ht, overTexts_cons_of_none ht, ih]
    | some t =>
      rw [sectionsOf_cons_of_some ht, overTexts_cons_of_some ht, ← ih, ← f.displayTree_section]
      rcases eq_or_ne (values.sectionsOf fields) [] with hnil | hne
      · simp [hnil]
      · rw [List.intercalate_cons_of_ne_nil hne, List.append_assoc, List.cons_append,
          List.cons_append, displayTree_append_empty_line]
        rfl

/-- **The display tree of a document is put together section by section.** -/
theorem displayTree_compile (values : FieldValues) :
    displayTree values.compile.source =
      values.overTexts Field.all fun f t => f.headingNodes ++ displayTree t := by
  rw [compile_source, displayTree_intercalate_sections]

end FieldValues

end ServiceCharter

import ServiceCharter.Html.Page
import ServiceCharter.Proofs.Markup.Composition

/-!
# HTML of composed sources

The HTML of a display tree is the HTML of its nodes with a line feed between neighbours
(`fragment_eq_intercalate`), so it may be joined group by group as well, if every group shows
something. The groups of a document are the headings of its fields and the trees of their texts, and
no text of a field has an empty tree. The HTML of a document is therefore the HTML of its parts,
each as it stands alone.
-/

namespace ServiceCharter.Html

open Text Markup

/-! ### Separators -/

/-- A separator is written as a line feed. -/
theorem print_separate (pieces : List (List Token)) :
    print (separate pieces) = ['\n'].intercalate (pieces.map print) := by
  induction pieces with
  | nil => rfl
  | cons ts pieces ih =>
    cases pieces with
    | nil => exact List.intercalate_singleton.symm
    | cons us rest =>
      have hsep : print (.text ['\n'] :: separate (us :: rest)) =
          ['\n'] ++ print (separate (us :: rest)) := rfl
      rw [separate, print_append, hsep, ih]
      simp [List.intercalate_cons_cons]

/-- The HTML of a tree, node by node. -/
theorem fragment_eq_intercalate (tree : List Node) :
    fragment tree = ['\n'].intercalate (tree.map fun node => print (nodeTokens node)) := by
  rw [fragment, treeTokens, print_separate, childTokens_eq_map, List.map_map]
  rfl

/-- **HTML may be joined group by group**, if no group of nodes is empty. -/
theorem fragment_flatten {groups : List (List Node)} (h : [] ∉ groups) :
    fragment groups.flatten = ['\n'].intercalate (groups.map fragment) := by
  have hne : [] ∉ groups.map fun g => g.map fun node => print (nodeTokens node) := by
    intro hmem
    obtain ⟨g, hg, hnil⟩ := List.mem_map.1 hmem
    exact h (List.map_eq_nil_iff.1 hnil ▸ hg)
  rw [fragment_eq_intercalate, List.map_flatten, intercalate_flatten _ hne, List.map_map]
  exact congrArg _ (List.map_congr_left fun g _ => (fragment_eq_intercalate g).symm)

end ServiceCharter.Html

namespace ServiceCharter

open Text Markup Html

/-! ### Documents -/

/-- The heading of a field as HTML; a verbatim field has none. -/
def Field.headingHtml (f : Field) : List Text :=
  if f.isVerbatim then []
  else [['<', 'h', '2', '>'] ++ f.title.toList ++ ['<', '/', 'h', '2', '>']]

/-- No title holds a character that HTML writes otherwise. -/
private theorem fragment_title (f : Field) :
    fragment [.heading [.text f.title.toList]] =
      ['<', 'h', '2', '>'] ++ f.title.toList ++ ['<', '/', 'h', '2', '>'] := by
  have hescape : escape f.title.toList = f.title.toList := by cases f <;> decide
  rw [← hescape]
  simp [fragment_eq_intercalate, nodeTokens, element, contentTokens, inlineTokens, print,
    Token.print, Tag.name, hescape]

/-- The parts of a section, by what they show: the heading, and the text. -/
private def Field.parts (f : Field) (t : Text) : List (List Node) :=
  f.headingNodes.map (fun node => [node]) ++ [displayTree t]

private theorem Field.flatten_parts (f : Field) (t : Text) :
    (f.parts t).flatten = f.headingNodes ++ displayTree t := by
  unfold parts headingNodes
  split <;> simp

private theorem Field.map_fragment_parts (f : Field) (t : Text) :
    (f.parts t).map fragment = f.headingHtml ++ [renderFragment t] := by
  unfold parts headingNodes headingHtml
  split
  · rfl
  · simp only [List.map_append, List.map_singleton, fragment_title, renderFragment]

private theorem Field.nil_notMem_parts (f : Field) {t : Text} (h : Solid t) : [] ∉ f.parts t := by
  have htree : displayTree t ≠ [] := displayTree_ne_nil h.allBlank_eq_false
  simp only [parts, List.mem_append, List.mem_map, List.mem_singleton, not_or, not_exists, not_and]
  exact ⟨fun _ _ => by simp, htree.symm⟩

namespace FieldValues

/-- The HTML of a document is put together section by section. -/
private theorem renderFragment_compile (values : FieldValues) :
    renderFragment values.compile.source =
      ['\n'].intercalate (values.overTexts Field.all fun f t =>
        f.headingHtml ++ [renderFragment t]) := by
  -- A part without nodes would show as a separator too many.
  have hne : [] ∉ values.overTexts Field.all Field.parts := by
    intro hmem
    obtain ⟨f, -, t, ht, hnil⟩ := mem_overTexts.1 hmem
    exact f.nil_notMem_parts (solid_of_text? ht) hnil
  have htree : displayTree values.compile.source =
      (values.overTexts Field.all Field.parts).flatten := by
    simp only [displayTree_compile, flatten_overTexts, Field.flatten_parts]
  rw [renderFragment, htree, fragment_flatten hne, map_overTexts]
  simp only [Field.map_fragment_parts]

/-- **Rendering is compositional.** Two line feeds or more separate what stands before them from
what stands behind them; so the display tree of a document is put together section by section, and
its HTML is that of the headings and of the texts, each as it stands alone. -/
theorem render_compositional (values : FieldValues) (a b : Text) (n : Nat) :
    displayTree (a ++ List.replicate (n + 2) '\n' ++ b) = displayTree a ++ displayTree b ∧
    displayTree values.compile.source =
      values.overTexts Field.all (fun f t => f.headingNodes ++ displayTree t) ∧
    renderFragment values.compile.source =
      ['\n'].intercalate (values.overTexts Field.all fun f t =>
        f.headingHtml ++ [renderFragment t]) :=
  ⟨displayTree_append_replicate a b n, values.displayTree_compile, values.renderFragment_compile⟩

end FieldValues

end ServiceCharter

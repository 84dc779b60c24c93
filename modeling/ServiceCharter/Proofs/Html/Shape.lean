import ServiceCharter.Html.Page
import ServiceCharter.Proofs.Html.Reading
import ServiceCharter.Proofs.Markup.Shape

/-!
# Generated HTML has no hollow elements

In the HTML of a source no element is empty, and a paragraph begins with the text of a line. On the
marks of the HTML this is a condition on neighbours: what stands behind an opening tag has to be
what the element may begin with (`Fills`). The marks of a proper tree keep to it
(`filled_marks_nodeTokens`), each element because of the condition on its content.

It carries over to the HTML as a text because tags cannot be written in any other way: where tags
stand in a text of marks, they are among its marks (`isInfix_of_flatMap_print`). No text of a source
can therefore make or complete one of the tags of a hollow element.
-/

namespace ServiceCharter.Html

open Text Markup

/-! ### Tags in a text of marks -/

/-- Marks at the head of a text of marks are the first of them. -/
private theorem isPrefix_of_flatMap_print {qs ms : List Mark} {t : Text}
    (h : ms.flatMap Mark.print = qs.flatMap Mark.print ++ t) : qs <+: ms := by
  induction qs generalizing ms with
  | nil => exact List.nil_prefix
  | cons q qs ih =>
    rw [List.flatMap_cons, List.append_assoc] at h
    cases ms with
    | nil => exact absurd (List.append_eq_nil_iff.1 h.symm).1 q.print_ne_nil
    | cons m ms =>
      -- The first mark of the text is both.
      have hread := readMark?_print_append m (ms.flatMap Mark.print)
      rw [← List.flatMap_cons, h, readMark?_print_append] at hread
      obtain ⟨rfl, hrest⟩ : q = m ∧ qs.flatMap Mark.print ++ t = ms.flatMap Mark.print := by
        simpa using hread
      exact List.cons_prefix_cons.2 ⟨rfl, ih hrest.symm⟩

/-- A `<` stands nowhere in a mark but at its head. -/
private theorem notMem_tail_print (m : Mark) : '<' ∉ m.print.tail := by
  cases m with
  | opening tag => cases tag <;> decide
  | closing tag => cases tag <;> decide
  | char c =>
    rw [Mark.print, escapeChar]
    split_ifs <;> simp

/-- **Tags that stand in a text of marks are among the marks**, with the marks behind them. -/
theorem isInfix_of_flatMap_print {qs ms : List Mark}
    (hqs : (qs.flatMap Mark.print).head? = some '<')
    (h : qs.flatMap Mark.print <:+: ms.flatMap Mark.print) : qs <:+: ms := by
  obtain ⟨s, t, h⟩ := h
  obtain ⟨u, hu⟩ := List.head?_eq_some_iff.1 hqs
  -- What stands before the tags is a text of marks itself, so it is taken off mark by mark.
  induction ms generalizing s with
  | nil =>
    rw [hu] at h
    simp at h
  | cons m ms ih =>
    rw [List.flatMap_cons, List.append_assoc, List.append_eq_append_iff] at h
    rcases h with ⟨s', hm, hrest⟩ | ⟨s', hs, hrest⟩
    · cases s with
      | nil =>
        have hprefix : qs <+: m :: ms := by
          refine isPrefix_of_flatMap_print (t := t) ?_
          rw [List.flatMap_cons, hm, List.nil_append, ← hrest]
        exact hprefix.isInfix
      | cons c s =>
        cases s' with
        | nil =>
          have hqs : [] ++ qs.flatMap Mark.print ++ t = ms.flatMap Mark.print := by
            simpa using hrest
          exact (ih [] hqs).trans (List.suffix_cons m ms).isInfix
        | cons d s' =>
          -- The `<` of the first tag would stand within the mark.
          rw [hu, List.cons_append, List.cons_append, List.cons_eq_cons] at hrest
          obtain ⟨rfl, -⟩ := hrest
          refine absurd ?_ (notMem_tail_print m)
          rw [hm]
          simp
    · have hqs : s' ++ qs.flatMap Mark.print ++ t = ms.flatMap Mark.print := by
        rw [hrest, List.append_assoc]
      exact (ih s' hqs).trans (List.suffix_cons m ms).isInfix

/-! ### What elements begin with -/

/-- Whether the content of a line may begin with the mark. -/
def Mark.beginsContent : Mark → Bool
  | opening tag => tag == .strong
  | closing _ => false
  | char _ => true

/-- Whether an element may begin with the mark. -/
def Tag.beginsWith : Tag → Mark → Bool
  | h2, m => m.beginsContent
  | p, m => m.beginsContent
  | li, m => m.beginsContent
  | ul, m => m == .opening li
  | ol, m => m == .opening li
  | strong, .char _ => true
  | strong, _ => false

/-- The second mark may stand behind the first: if that opens an element, then this fills it. -/
def Fills : Mark → Mark → Prop
  | .opening tag, m => tag.beginsWith m = true
  | _, _ => True

instance : DecidableRel Fills
  | .opening tag, m => inferInstanceAs (Decidable (tag.beginsWith m = true))
  | .closing _, _ => inferInstanceAs (Decidable True)
  | .char _, _ => inferInstanceAs (Decidable True)

/-- Marks in which elements are filled, whatever stands behind them. -/
def Filled (ms : List Mark) : Prop :=
  ∀ rest : List Mark, rest.IsChain Fills → (ms ++ rest).IsChain Fills

theorem filled_nil : Filled [] := fun _ h => h

theorem Filled.append {ms ms' : List Mark} (h : Filled ms) (h' : Filled ms') :
    Filled (ms ++ ms') := by
  intro rest hrest
  rw [List.append_assoc]
  exact h _ (h' rest hrest)

private theorem filled_map_char (t : Text) : Filled (t.map .char) := by
  intro rest hrest
  induction t with
  | nil => exact hrest
  | cons c t ih => exact ih.cons fun _ _ => trivial

/-- An element is filled by content that begins as it may. -/
private theorem filled_marks_element {tag : Tag} {ts : List Token} (h : Filled (marks ts))
    (hbegin : ∃ m ∈ (marks ts).head?, tag.beginsWith m = true) :
    Filled (marks (element tag ts)) := by
  intro rest hrest
  obtain ⟨m, hm, hfirst⟩ := hbegin
  obtain ⟨ms, hms⟩ := List.head?_eq_some_iff.1 (Option.mem_def.1 hm)
  have hinner : (marks ts ++ .closing tag :: rest).IsChain Fills :=
    h _ (hrest.cons fun _ _ => trivial)
  rw [marks_element, List.cons_append, List.append_assoc, List.singleton_append]
  refine hinner.cons fun m' hm' => ?_
  obtain rfl : m = m' := by simpa [hms] using hm'
  exact hfirst

private theorem filled_marks_separate {pieces : List (List Token)}
    (h : ∀ ts ∈ pieces, Filled (marks ts)) : Filled (marks (separate pieces)) := by
  induction pieces with
  | nil => exact filled_nil
  | cons ts pieces ih =>
    have hts := h ts List.mem_cons_self
    have hrest := ih fun us hus => h us (List.mem_cons_of_mem ts hus)
    rcases eq_or_ne pieces [] with rfl | hne
    · exact hts
    · rw [marks_separate_cons ts hne]
      exact hts.append ((filled_map_char ['\n']).append hrest)

/-- The marks of siblings begin as those of the first do. -/
private theorem head?_marks_separate {ts : List Token} {m : Mark} (h : m ∈ (marks ts).head?)
    (pieces : List (List Token)) : m ∈ (marks (separate (ts :: pieces))).head? := by
  rcases eq_or_ne pieces [] with rfl | hne
  · exact h
  · rw [marks_separate_cons ts hne, List.head?_append, Option.mem_def.1 h]
    rfl

/-! ### Proper trees -/

/-- A piece that is not empty begins with a character or as a bold span. -/
private theorem exists_head?_marks_inlineTokens {piece : Inline} (h : piece.shown ≠ []) :
    ∃ m ∈ (marks (inlineTokens piece)).head?, m.beginsContent = true := by
  cases piece with
  | text t =>
    obtain ⟨c, t, rfl⟩ := List.exists_cons_of_ne_nil h
    exact ⟨.char c, rfl, rfl⟩
  | bold t =>
    rw [inlineTokens, marks_element]
    exact ⟨.opening .strong, rfl, rfl⟩

private theorem filled_marks_inlineTokens {piece : Inline} (h : piece.shown ≠ []) :
    Filled (marks (inlineTokens piece)) := by
  cases piece with
  | text t =>
    rw [inlineTokens, marks_text]
    exact filled_map_char t
  | bold t =>
    obtain ⟨c, t, rfl⟩ := List.exists_cons_of_ne_nil h
    refine filled_marks_element ?_ ⟨.char c, rfl, rfl⟩
    rw [marks_text]
    exact filled_map_char (c :: t)

/-- The marks of proper content begin as content may. -/
private theorem exists_head?_marks_contentTokens {content : List Inline}
    (h : ProperContent content) :
    ∃ m ∈ (marks (contentTokens content)).head?, m.beginsContent = true := by
  obtain ⟨piece, content, rfl⟩ := List.exists_cons_of_ne_nil h.ne_nil
  obtain ⟨m, hm, hbegin⟩ := exists_head?_marks_inlineTokens (h.shown_ne_nil piece (by simp))
  refine ⟨m, ?_, hbegin⟩
  rw [marks_contentTokens_cons, List.head?_append, Option.mem_def.1 hm]
  rfl

private theorem filled_marks_contentTokens {content : List Inline}
    (h : ∀ piece ∈ content, piece.shown ≠ []) : Filled (marks (contentTokens content)) := by
  induction content with
  | nil => exact filled_nil
  | cons piece content ih =>
    rw [marks_contentTokens_cons]
    exact (filled_marks_inlineTokens (h piece List.mem_cons_self)).append
      (ih fun p hp => h p (List.mem_cons_of_mem piece hp))

/-- An element with proper content is filled. -/
private theorem filled_marks_element_content {tag : Tag} {content : List Inline}
    (htag : ∀ m : Mark, m.beginsContent = true → tag.beginsWith m = true)
    (h : ProperContent content) : Filled (marks (element tag (contentTokens content))) := by
  obtain ⟨m, hm, hbegin⟩ := exists_head?_marks_contentTokens h
  exact filled_marks_element (filled_marks_contentTokens h.shown_ne_nil) ⟨m, hm, htag m hbegin⟩

private theorem filled_marks_flat {node : Node} (h : node.Flat) :
    Filled (marks (nodeTokens node)) := by
  cases node with
  | heading content =>
    rw [nodeTokens]
    exact filled_marks_element_content (fun _ hm => hm) h
  | line content =>
    rw [nodeTokens]
    exact filled_marks_contentTokens (ProperContent.shown_ne_nil h)
  | paragraph children => exact h.elim
  | list kind items =>
    obtain ⟨hne, hitems⟩ := h
    obtain ⟨item, items, rfl⟩ := List.exists_cons_of_ne_nil hne
    rw [nodeTokens]
    refine filled_marks_element (filled_marks_separate fun ts hts => ?_) ⟨.opening .li, ?_, ?_⟩
    · obtain ⟨item', hitem', rfl⟩ := List.mem_map.1 hts
      exact filled_marks_element_content (fun _ hm => hm) (hitems item' hitem')
    · refine head?_marks_separate ?_ _
      rw [marks_element]
      rfl
    · cases kind <;> rfl

/-- **The marks of a proper node are filled.** -/
theorem filled_marks_nodeTokens {node : Node} (h : node.Proper) :
    Filled (marks (nodeTokens node)) := by
  cases node with
  | paragraph children =>
    obtain ⟨⟨content, hhead⟩, hflat, -⟩ : ProperParagraph children := h
    obtain ⟨rest, rfl⟩ := List.head?_eq_some_iff.1 hhead
    have hcontent : ProperContent content := hflat (.line content) List.mem_cons_self
    obtain ⟨m, hm, hbegin⟩ := exists_head?_marks_contentTokens hcontent
    rw [nodeTokens, childTokens_eq_map]
    refine filled_marks_element (filled_marks_separate fun ts hts => ?_) ⟨m, ?_, hbegin⟩
    · obtain ⟨child, hchild, rfl⟩ := List.mem_map.1 hts
      exact filled_marks_flat (hflat child hchild)
    · rw [List.map_cons]
      refine head?_marks_separate ?_ _
      rwa [nodeTokens]
  | _ => exact filled_marks_flat h

private theorem isChain_fills_marks_treeTokens {tree : List Node} (h : ProperTree tree) :
    (marks (treeTokens tree)).IsChain Fills := by
  have hfilled : Filled (marks (treeTokens tree)) := by
    rw [treeTokens, childTokens_eq_map]
    refine filled_marks_separate fun ts hts => ?_
    obtain ⟨node, hnode, rfl⟩ := List.mem_map.1 hts
    exact filled_marks_nodeTokens (h.proper node hnode)
  simpa using hfilled [] .nil

/-- The HTML of a proper tree is empty only if the tree is. -/
theorem fragment_ne_nil {tree : List Node} (h : ProperTree tree) (hne : tree ≠ []) :
    fragment tree ≠ [] := by
  obtain ⟨node, tree, rfl⟩ := List.exists_cons_of_ne_nil hne
  have hnode := h.proper node List.mem_cons_self
  -- The first node has a first mark, unless it is a line, and that has content.
  have hmarks : ∃ m, m ∈ (marks (nodeTokens node)).head? := by
    cases node with
    | line content => exact absurd rfl (h.head content)
    | _ => exact ⟨_, by rw [nodeTokens, marks_element]; rfl⟩
  obtain ⟨m, hm⟩ := hmarks
  have hhead : m ∈ (marks (treeTokens (node :: tree))).head? := head?_marks_separate hm _
  obtain ⟨ms, hms⟩ := List.head?_eq_some_iff.1 (Option.mem_def.1 hhead)
  rw [fragment, ← flatMap_print_marks, hms, List.flatMap_cons]
  exact List.append_ne_nil_of_left_ne_nil m.print_ne_nil _

/-! ### Hollow elements -/

/-- **In the HTML of a source no element is hollow.** -/
theorem not_isInfix_renderFragment {tag : Tag} {m : Mark} (h : tag.beginsWith m = false)
    (source : Text) : ¬(Mark.opening tag).print ++ m.print <:+: renderFragment source := by
  intro hinfix
  have hprint : [.opening tag, m].flatMap Mark.print = (Mark.opening tag).print ++ m.print := by
    simp
  rw [← hprint, renderFragment, fragment, ← flatMap_print_marks] at hinfix
  have hmarks := isInfix_of_flatMap_print rfl hinfix
  have hchain := List.IsChain.infix (isChain_fills_marks_treeTokens (proper_displayTree source))
    hmarks
  have hfills : Fills (.opening tag) m := List.isChain_pair.1 hchain
  exact absurd (h.symm.trans hfills) Bool.false_ne_true

/-- Opening tags, each with a mark that its element must not begin with. -/
private def hollowTags : List (Tag × Mark) :=
  [(.p, .closing .p), (.p, .opening .h2), (.p, .opening .ul), (.p, .opening .ol),
    (.ul, .closing .ul), (.ol, .closing .ol), (.li, .closing .li), (.h2, .closing .h2),
    (.strong, .closing .strong)]

/-- What the HTML of a source never holds: empty elements, and paragraphs that begin with a heading
or a list. -/
def hollowElements : List String :=
  ["<p></p>", "<p><h2>", "<p><ul>", "<p><ol>", "<ul></ul>", "<ol></ol>", "<li></li>", "<h2></h2>",
    "<strong></strong>"]

/-- **The shape of what is shown for a source.** Its display tree is proper, and pruning took
nothing from it. Tree and HTML are empty exactly if the source is white space. And whatever the
source says, the HTML holds none of the `hollowElements`. -/
theorem shape_of_displayTree (source : Text) :
    ProperTree (displayTree source) ∧
    displayTree source = (blocks (classify source)).flatMap blockNodes ∧
    (displayTree source = [] ↔ allBlank source = true) ∧
    (renderFragment source = [] ↔ allBlank source = true) ∧
    ∀ hollow ∈ hollowElements, ¬hollow.toList <:+: renderFragment source := by
  have hproper := proper_displayTree source
  refine ⟨hproper, displayTree_eq_flatMap source, displayTree_eq_nil_iff, ?_, ?_⟩
  · rw [← displayTree_eq_nil_iff]
    constructor
    · intro hnil
      by_contra hne
      exact fragment_ne_nil hproper hne hnil
    · intro hnil
      rw [renderFragment, hnil]
      rfl
  · have htags : ∀ hollow ∈ hollowElements, ∃ pair ∈ hollowTags,
        pair.1.beginsWith pair.2 = false ∧
          hollow.toList = (Mark.opening pair.1).print ++ pair.2.print := by decide
    intro hollow hmem
    obtain ⟨pair, -, hbegin, heq⟩ := htags hollow hmem
    rw [heq]
    exact not_isInfix_renderFragment hbegin source

end ServiceCharter.Html

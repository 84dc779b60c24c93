import ServiceCharter.Proofs.Markup.Composition
import ServiceCharter.Proofs.Markup.Contents

/-!
# Spellings of a document

A document may be written down in many ways: the white space behind a marker, the digits of an
ordinal and the number of line feeds between blocks are free at each place. `Spells` says which
texts spell a sequence of blocks, and `displayTree_of_spells` that reading undoes all of this: the
display tree of every spelling shows the blocks, and nothing else.

A block is a list of parts. What may stand in it is part of its type: a part that would be read
otherwise, such as a line that begins with a marker, is in no `Block`. The stages of reading then
each take back one layer of the spelling. A line gets the class of what it spells
(`Part.map_classOf_of_spells`), cutting finds the blocks, trimming has nothing to take off
(`trimEdges_eq_self`), and grouping finds the lists.
-/

namespace ServiceCharter.Markup

open Text

/-! ### Blocks and their parts -/

/-- The content of a line, as it can be read. -/
structure Content where
  inlines : List Inline
  legible : Legible inlines

/-- The spelling of the content. -/
def Content.text (c : Content) : Text := spell c.inlines

/-- A part of a block. -/
inductive Part where
  | heading (title : Content)
  | line (content : Content)
  | list (kind : ListKind) (items : List Content)

namespace Part

/-- The part may be spelled: content behind a marker does not begin with white space, a line does
not look as if it had a marker, and a list has items. -/
def Valid : Part → Prop
  | heading title => beginsBare title.text = true
  | line content => Unmarked content.text
  | list _ items => items ≠ [] ∧ ∀ item ∈ items, beginsBare item.text = true

instance : (part : Part) → Decidable part.Valid
  | heading _ => inferInstanceAs (Decidable (_ = _))
  | line content => inferInstanceAs (Decidable (Unmarked content.text))
  | list _ items => inferInstanceAs (Decidable (items ≠ [] ∧ ∀ item ∈ items, _))

/-- The two parts may stand side by side: they are not two lists of one kind. -/
def Apart : Part → Part → Prop
  | list kind _, list kind' _ => kind ≠ kind'
  | _, _ => True

instance decidableApart : (part part' : Part) → Decidable (part.Apart part')
  | list kind _, list kind' _ => inferInstanceAs (Decidable (kind ≠ kind'))
  | heading _, _ => inferInstanceAs (Decidable True)
  | line _, _ => inferInstanceAs (Decidable True)
  | list _ _, heading _ => inferInstanceAs (Decidable True)
  | list _ _, line _ => inferInstanceAs (Decidable True)

/-- If the part is a line, it begins with a character that is not white space. -/
def BeginsBare : Part → Prop
  | line content => beginsBare content.text = true
  | _ => True

/-- If the part is a line, it ends with a character that is not white space. -/
def EndsBare : Part → Prop
  | line content => endsBare content.text = true
  | _ => True

instance : (part : Part) → Decidable part.BeginsBare
  | line _ => inferInstanceAs (Decidable (_ = _))
  | heading _ => inferInstanceAs (Decidable True)
  | list _ _ => inferInstanceAs (Decidable True)

instance : (part : Part) → Decidable part.EndsBare
  | line _ => inferInstanceAs (Decidable (_ = _))
  | heading _ => inferInstanceAs (Decidable True)
  | list _ _ => inferInstanceAs (Decidable True)

/-- The node that shows the part. -/
def node : Part → Node
  | heading title => .heading title.inlines
  | line content => .line content.inlines
  | list kind items => .list kind (items.map Content.inlines)

end Part

/-- A block. White space around a line would not be seen where the block begins or ends with it. -/
structure Block where
  parts : List Part
  ne_nil : parts ≠ [] := by decide
  valid : ∀ part ∈ parts, part.Valid := by decide
  apart : parts.IsChain Part.Apart := by decide
  head : ∀ part ∈ parts.head?, part.BeginsBare := by decide
  last : ∀ part ∈ parts.getLast?, part.EndsBare := by decide

/-- The nodes that show the block: a paragraph if it begins with a line. -/
def Block.nodes (b : Block) : List Node :=
  match b.parts with
  | .line _ :: _ => [.paragraph (b.parts.map Part.node)]
  | _ => b.parts.map Part.node

/-! ### Spellings -/

/-- How an item may be written. -/
inductive ItemSpells (marker : Marker) (item : Content) : Text → Prop
  | intro {m w : Text} (hm : marker.Spells m) (hw : Gap w) :
    ItemSpells marker item (m ++ (w ++ item.text))

/-- The lines in which a part may be written. -/
inductive Part.Spells : Part → List Text → Prop
  | heading {title : Content} {w : Text} (hw : Gap w) :
    Spells (.heading title) [['#', '#'] ++ (w ++ title.text)]
  | line {content : Content} : Spells (.line content) [content.text]
  | list {kind : ListKind} {items : List Content} {ts : List Text}
    (h : List.Forall₂ (ItemSpells kind.marker) items ts) : Spells (.list kind items) ts

/-- How a block may be written: the lines of its parts with one line feed between neighbours. -/
inductive Block.Spells (b : Block) : Text → Prop
  | intro {groups : List (List Text)} (h : List.Forall₂ Part.Spells b.parts groups) :
    Spells b (['\n'].intercalate groups.flatten)

/-- How blocks may be written: two line feeds or more between neighbours, and any number of them
before and after. -/
inductive Spells : List Block → Text → Prop
  | nil : Spells [] []
  | newline {bs : List Block} {u : Text} (h : Spells bs u) : Spells bs ('\n' :: u)
  | last {b : Block} {t : Text} (n : Nat) (h : b.Spells t) : Spells [b] (t ++ List.replicate n '\n')
  | cons {b b' : Block} {bs : List Block} {t u : Text} (h : b.Spells t)
    (hrest : Spells (b' :: bs) u) : Spells (b :: b' :: bs) (t ++ '\n' :: '\n' :: u)

/-! ### Classes of spelled lines -/

/-- The element that a part is read as. -/
def Part.element : Part → Element
  | heading title => .line (.heading title.text)
  | line content => .line (.text content.text)
  | list kind items => .list kind (items.map Content.text)

/-- **A line has the class of what it spells.** -/
theorem Part.map_classOf_of_spells {part : Part} {ts : List Text} (h : part.Spells ts)
    (hvalid : part.Valid) : ts.map Line.classOf = part.element.expand := by
  cases h with
  | heading hw => exact congrArg (fun l => [l]) (Line.classOf_of_spells (.heading hw hvalid))
  | @line content =>
    have hline : (Line.text content.text).Spells content.text :=
      .text content.legible.spell_ne_nil hvalid
    exact congrArg (fun l => [l]) (Line.classOf_of_spells hline)
  | @list kind items ts h =>
    obtain ⟨-, hbare⟩ := hvalid
    induction h with
    | nil => rfl
    | @cons item t items ts hitem _ ih =>
      obtain ⟨hm, hw⟩ := hitem
      have hspells := Line.Spells.item hm hw (hbare item List.mem_cons_self)
      have hhead := Line.classOf_of_spells hspells
      have htail := ih fun item' hmem => hbare item' (List.mem_cons_of_mem item hmem)
      rw [List.map_cons, hhead, htail]
      rfl

/-! ### One block -/

/-- **A block is trimmed at white space only.** Where its first line begins with something else and
its last line ends with something else, as far as they are text, trimming takes nothing off. -/
theorem trimEdges_eq_self {block : List Line}
    (hhead : ∀ t, block.head? = some (.text t) → beginsBare t = true)
    (hlast : ∀ t, block.getLast? = some (.text t) → endsBare t = true) :
    trimEdges block = block := by
  have hfirst : ∀ l ∈ block.head?, l.isBlankText = false ∧ l.trimStart = l := by
    intro l hl
    cases l with
    | text t =>
      obtain ⟨a, u, rfl, ha⟩ := beginsBare_iff.1 (hhead t hl)
      exact ⟨by simp [Line.isBlankText, allBlank, ha],
        congrArg Line.text (trimStart_cons_of_not_isBlank ha u)⟩
    | _ => exact ⟨rfl, rfl⟩
  have hfinal : ∀ l ∈ block.getLast?, l.isBlankText = false ∧ l.trimEnd = l := by
    intro l hl
    cases l with
    | text t =>
      obtain ⟨u, a, rfl, ha⟩ := endsBare_iff.1 (hlast t hl)
      exact ⟨by simp [Line.isBlankText, allBlank, ha], congrArg Line.text (trimEnd_of_last ha)⟩
    | _ => exact ⟨rfl, rfl⟩
  cases block with
  | nil => rfl
  | cons first rest =>
    obtain ⟨hblank, hstart⟩ := hfirst first rfl
    rcases List.eq_nil_or_concat' rest with rfl | ⟨between, last, rfl⟩
    · have htrims := Trims.one first hblank
      rw [hstart, (hfinal first rfl).2] at htrims
      exact htrims.trimEdges_eq
    · obtain ⟨hblank', hend⟩ := hfinal last (List.getLast?_concat (l := first :: between))
      have htrims := Trims.more first between last hblank hblank'
      rw [hstart, hend] at htrims
      exact htrims.trimEdges_eq

namespace Part

/-- Of all parts, only lines are read as text. -/
private theorem eq_line_of_text_mem {part : Part} {t : Text} (h : .text t ∈ part.element.expand) :
    ∃ content, part = .line content ∧ t = content.text := by
  cases part with
  | heading title => simp [element, Element.expand] at h
  | line content => exact ⟨content, rfl, by simpa [element, Element.expand] using h⟩
  | list kind items => simp [element, Element.expand] at h

private theorem ne_blank_of_mem_expand {part : Part} {l : Line} (h : l ∈ part.element.expand) :
    l ≠ .blank := by
  rintro rfl
  cases part <;> simp [element, Element.expand] at h

private theorem expand_ne_nil {part : Part} (hvalid : part.Valid) : part.element.expand ≠ [] := by
  cases part with
  | list kind items =>
    obtain ⟨hne, -⟩ := hvalid
    simpa [element, Element.expand] using hne
  | _ => exact List.cons_ne_nil _ _

private theorem grouped_element {part : Part} (hvalid : part.Valid) : part.element.Grouped := by
  cases part with
  | list kind items =>
    obtain ⟨hne, -⟩ := hvalid
    simpa [element, Element.Grouped] using hne
  | _ => trivial

private theorem apart_element {part part' : Part} (h : part.Apart part') :
    part.element.Apart part'.element := by
  cases part with
  | list kind items =>
    cases part' with
    | list kind' items' => exact h
    | _ => trivial
  | _ => trivial

/-- An element shows the part that it is read from. -/
theorem node?_element (part : Part) : part.element.node? = some part.node := by
  cases part with
  | heading title => exact congrArg (some ∘ Node.heading) title.legible.inlines_spell
  | line content => exact congrArg (some ∘ Node.line) content.legible.inlines_spell
  | list kind items =>
    have hitems : (items.map Content.text).map inlines = items.map Content.inlines := by
      rw [List.map_map]
      exact List.map_congr_left fun item _ => item.legible.inlines_spell
    exact congrArg (some ∘ Node.list kind) hitems

/-- No line feed stands within a line of a part. -/
theorem newline_notMem_of_spells {part : Part} {ts : List Text} (h : part.Spells ts) :
    ∀ t ∈ ts, '\n' ∉ t := by
  cases h with
  | @heading title w hw =>
    have htitle : '\n' ∉ title.text := title.legible.newline_notMem
    simpa using ⟨hw.newline_notMem, htitle⟩
  | @line content =>
    have hcontent : '\n' ∉ content.text := content.legible.newline_notMem
    simpa using hcontent
  | @list kind items ts h =>
    induction h with
    | nil => simp
    | @cons item t items ts hitem _ ih =>
      obtain ⟨hm, hw⟩ := hitem
      have htext : '\n' ∉ item.text := item.legible.newline_notMem
      refine List.forall_mem_cons.2 ⟨?_, ih⟩
      simp only [List.mem_append, not_or]
      exact ⟨hm.newline_notMem, hw.newline_notMem, htext⟩

end Part

namespace Block

variable {b : Block} {t : Text}

/-- The elements of the block. -/
def elements (b : Block) : List Element := b.parts.map Part.element

/-- The lines of a spelled block, by their classes. -/
private theorem map_classOf_flatten {parts : List Part} {groups : List (List Text)}
    (h : List.Forall₂ Part.Spells parts groups) (hvalid : ∀ part ∈ parts, part.Valid) :
    groups.flatten.map Line.classOf = (parts.map Part.element).flatMap Element.expand := by
  induction h with
  | nil => rfl
  | @cons part ts parts groups hpart _ ih =>
    have hhead := Part.map_classOf_of_spells hpart (hvalid part List.mem_cons_self)
    have htail := ih fun part' hmem => hvalid part' (List.mem_cons_of_mem part hmem)
    rw [List.flatten_cons, List.map_append, hhead, htail]
    rfl

private theorem newline_notMem_flatten {parts : List Part} {groups : List (List Text)}
    (h : List.Forall₂ Part.Spells parts groups) : ∀ t ∈ groups.flatten, '\n' ∉ t := by
  induction h with
  | nil => simp
  | @cons part ts parts groups hpart _ ih =>
    rw [List.flatten_cons, List.forall_mem_append]
    exact ⟨part.newline_notMem_of_spells hpart, ih⟩

/-- The lines that the block is read from. -/
def lines (b : Block) : List Line := b.elements.flatMap Element.expand

private theorem head?_lines (hl : b.lines.head? = some (.text t)) :
    ∃ content, b.parts.head? = some (.line content) ∧ t = content.text := by
  obtain ⟨part, parts, hparts⟩ := List.exists_cons_of_ne_nil b.ne_nil
  have hvalid : part.Valid := b.valid part (by simp [hparts])
  obtain ⟨l, ls, hexpand⟩ := List.exists_cons_of_ne_nil (part.expand_ne_nil hvalid)
  have hmem : .text t ∈ part.element.expand := by
    simp only [lines, elements, hparts, List.map_cons, List.flatMap_cons, hexpand, List.cons_append,
      List.head?_cons, Option.some.injEq] at hl
    rw [hexpand, hl]
    exact List.mem_cons_self
  obtain ⟨content, rfl, htext⟩ := Part.eq_line_of_text_mem hmem
  exact ⟨content, by rw [hparts]; rfl, htext⟩

private theorem getLast?_lines (hl : b.lines.getLast? = some (.text t)) :
    ∃ content, b.parts.getLast? = some (.line content) ∧ t = content.text := by
  obtain ⟨parts, part, hparts⟩ := b.parts.eq_nil_or_concat'.resolve_left b.ne_nil
  have hvalid : part.Valid := b.valid part (by simp [hparts])
  obtain ⟨ls, l, hexpand⟩ :=
    part.element.expand.eq_nil_or_concat'.resolve_left (part.expand_ne_nil hvalid)
  have hmem : .text t ∈ part.element.expand := by
    simp only [lines, elements, hparts, List.map_append, List.flatMap_append, List.map_singleton,
      List.flatMap_singleton, hexpand, ← List.append_assoc, List.getLast?_concat,
      Option.some.injEq] at hl
    rw [hexpand, hl]
    simp
  obtain ⟨content, rfl, htext⟩ := Part.eq_line_of_text_mem hmem
  exact ⟨content, by rw [hparts, List.getLast?_concat], htext⟩

/-- Trimming takes nothing off the lines of a block. -/
private theorem trimEdges_lines (b : Block) : trimEdges b.lines = b.lines := by
  refine trimEdges_eq_self (fun t ht => ?_) fun t ht => ?_
  · obtain ⟨content, hhead, rfl⟩ := head?_lines ht
    exact b.head _ hhead
  · obtain ⟨content, hlast, rfl⟩ := getLast?_lines ht
    exact b.last _ hlast

/-- Grouping finds the elements of a block. -/
private theorem gatherRemaining_lines (b : Block) :
    gatherRemaining (gatherBullets b.lines) = b.elements := by
  refine gatherRemaining_flatMap_expand (fun e he => ?_) ?_
  · obtain ⟨part, hpart, rfl⟩ := List.mem_map.1 he
    exact part.grouped_element (b.valid part hpart)
  · exact (List.isChain_map _).2 (b.apart.imp fun _ _ => Part.apart_element)

/-- The elements of a block are shown as its nodes. -/
private theorem enclose_elements (b : Block) : enclose b.elements = b.nodes := by
  have hnodes : b.elements.filterMap Element.node? = b.parts.map Part.node := by
    rw [elements, List.filterMap_map, ← List.filterMap_eq_map]
    exact List.filterMap_congr fun part _ => part.node?_element
  obtain ⟨part, parts, hparts⟩ := List.exists_cons_of_ne_nil b.ne_nil
  rw [enclose, hnodes, nodes, hparts]
  cases part <;> rfl

private theorem prune_nodes (b : Block) : prune b.nodes = b.nodes := by
  have hpart : ∀ part : Part, part.node.isEmptyParagraph = false := by
    intro part
    cases part <;> rfl
  refine List.filter_eq_self.2 fun node hnode => ?_
  unfold nodes at hnode
  split at hnode
  · next content parts hparts =>
    rw [List.mem_singleton.1 hnode, hparts]
    rfl
  · obtain ⟨part, -, rfl⟩ := List.mem_map.1 hnode
    simp [hpart]

/-- **Reading a spelling of a block gives its nodes.** -/
theorem Spells.displayTree (h : b.Spells t) : displayTree t = b.nodes := by
  obtain @⟨groups, hgroups⟩ := h
  have hclasses : groups.flatten.map Line.classOf = b.lines := map_classOf_flatten hgroups b.valid
  have hne : b.lines ≠ [] := by
    obtain ⟨part, parts, hparts⟩ := List.exists_cons_of_ne_nil b.ne_nil
    have hpart : part.element.expand ≠ [] := part.expand_ne_nil (b.valid part (by simp [hparts]))
    simp [lines, elements, hparts, hpart]
  have hlines : Text.lines (['\n'].intercalate groups.flatten) = groups.flatten := by
    refine lines_intercalate ?_ (newline_notMem_flatten hgroups)
    rintro hnil
    rw [hnil] at hclasses
    exact hne hclasses.symm
  have hblank : ∀ l ∈ b.lines, l ≠ .blank := by
    intro l hl
    obtain ⟨e, he, hmem⟩ := List.mem_flatMap.1 hl
    obtain ⟨part, -, rfl⟩ := List.mem_map.1 he
    exact part.ne_blank_of_mem_expand hmem
  rw [displayTree_eq, hlines, hclasses, blocks_of_forall_ne_blank hne hblank,
    List.flatMap_singleton, blockNodes, b.trimEdges_lines, b.gatherRemaining_lines,
    b.enclose_elements, b.prune_nodes]

end Block

/-! ### Documents -/

/-- **Reading undoes every spelling of a document.** The display tree of a text that spells a
sequence of blocks shows these blocks, one after the other. -/
theorem displayTree_of_spells {bs : List Block} {source : Text} (h : Spells bs source) :
    displayTree source = bs.flatMap Block.nodes := by
  induction h with
  | nil => rfl
  | newline _ ih => rw [displayTree_newline_cons, ih]
  | last n h =>
    rw [displayTree_append_newlines, h.displayTree, List.flatMap_singleton]
  | cons h _ ih =>
    rw [displayTree_append_empty_line, h.displayTree, ih]
    rfl

/-- A plain text as content. -/
def Content.plain (t : Text) (hne : t ≠ [] := by decide) (hnewline : '\n' ∉ t := by decide)
    (hstar : '*' ∉ t := by decide) : Content where
  inlines := [.text t]
  legible := by
    have hread : Markup.inlines t = [.text t] := by
      rw [inlines_of_not_mem hstar, Markup.plain, if_neg (by simpa using hne)]
    rw [← hread]
    exact legible_inlines hne hnewline

/-- A title with a bold word. -/
def sampleTitle : Content where
  inlines := [.text "Custo ".toList, .bold "RG".toList]
  legible := ⟨by decide, by decide, by cbv⟩

/-- A heading, lists of both kinds, and lines with white space where it is kept. -/
def sampleLists : Block where
  parts := [.heading sampleTitle, .list .unordered [.plain "um".toList, .plain "dois".toList],
    .list .ordered [.plain "- três".toList], .line (.plain "fim ".toList),
    .line (.plain " 4.".toList)]

/-- A hyphen alone. -/
def sampleLine : Block where
  parts := [.line (.plain "-".toList)]

/-- The two blocks with white space of several kinds, and more line feeds than there must be. -/
theorem displayTree_of_sample_spelling :
    Spells [sampleLists, sampleLine]
      "\n## \tCusto **RG**\n-  um\n- dois\n007. - três\nfim \n 4.\n\n\n-\n".toList ∧
    displayTree "\n## \tCusto **RG**\n-  um\n- dois\n007. - três\nfim \n 4.\n\n\n-\n".toList =
      [.heading [.text "Custo ".toList, .bold "RG".toList],
        .list .unordered [[.text "um".toList], [.text "dois".toList]],
        .list .ordered [[.text "- três".toList]], .line [.text "fim ".toList],
        .line [.text " 4.".toList], .paragraph [.line [.text "-".toList]]] := by
  have hunordered : Part.Spells (.list .unordered [.plain "um".toList, .plain "dois".toList])
      ["-  um".toList, "- dois".toList] :=
    .list (.cons (.intro (w := "  ".toList) .bullet {})
      (.cons (.intro (w := [' ']) .bullet {}) .nil))
  have hdigits : ∀ d ∈ "007".toList, d.isDigit = true := List.all_eq_true.1 (by decide)
  have hordered : Part.Spells (.list .ordered [.plain "- três".toList]) ["007. - três".toList] :=
    .list (.cons (.intro (w := [' ']) (.numbered (by decide) hdigits) {}) .nil)
  have hgroups : List.Forall₂ Part.Spells sampleLists.parts
      [["## \tCusto **RG**".toList], ["-  um".toList, "- dois".toList], ["007. - três".toList],
        ["fim ".toList], [" 4.".toList]] :=
    .cons (.heading (w := " \t".toList) {}) (.cons hunordered (.cons hordered
      (.cons .line (.cons .line .nil))))
  have hhyphen : List.Forall₂ Part.Spells sampleLine.parts [[['-']]] := .cons .line .nil
  have hsource : "\n## \tCusto **RG**\n-  um\n- dois\n007. - três\nfim \n 4.\n\n\n-\n".toList =
      '\n' :: (['\n'].intercalate ["## \tCusto **RG**".toList, "-  um".toList, "- dois".toList,
        "007. - três".toList, "fim ".toList, " 4.".toList] ++ '\n' :: '\n' :: '\n' ::
          (['-'] ++ List.replicate 1 '\n')) := by decide
  have h : Spells [sampleLists, sampleLine]
      "\n## \tCusto **RG**\n-  um\n- dois\n007. - três\nfim \n 4.\n\n\n-\n".toList := by
    rw [hsource]
    exact .newline (.cons (.intro hgroups) (.newline (.last 1 (.intro hhyphen))))
  refine ⟨h, ?_⟩
  rw [displayTree_of_spells h]
  rfl

end ServiceCharter.Markup

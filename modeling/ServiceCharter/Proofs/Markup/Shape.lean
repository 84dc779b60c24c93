import ServiceCharter.Proofs.Markup.Canonical
import ServiceCharter.Proofs.Markup.Composition
import ServiceCharter.Proofs.Markup.Contents

/-!
# The shape of display trees

Not every tree is the display tree of a source. A tree that is has a shape (`ProperTree`): there is
no empty paragraph, list or content in it, paragraphs hold lines and lists and begin with a line,
lists of one kind do not stand side by side in a paragraph, and a line at the top level stands
behind something other than a paragraph.

Each of this is the work of one stage. Content is proper because reading a line leaves out empty
pieces (`proper_inlines`), and there is something to read because trimming leaves content in every
line that it keeps. Grouping gathers non-empty runs and keeps lists of one kind apart. Enclosing
looks at the first node of a block (`proper_enclose`), so a line at the top level has a heading or a
list in front of it in its own block. The shape of the parts is that of the whole
(`ProperTree.append`).
-/

namespace ServiceCharter.Markup

open Text

/-! ### Proper content -/

/-- Two pieces that may stand side by side: anything but two plain ones. -/
def Inline.Apart : Inline → Inline → Prop
  | text _, text _ => False
  | _, _ => True

/-- Content of the shape that reading gives it. -/
structure ProperContent (content : List Inline) : Prop where
  ne_nil : content ≠ []
  /-- No piece is empty. -/
  shown_ne_nil : ∀ piece ∈ content, piece.shown ≠ []
  /-- No piece goes over a line end. -/
  newline_notMem : ∀ piece ∈ content, '\n' ∉ piece.shown
  isChain_apart : content.IsChain Inline.Apart

theorem Inline.Precedes.apart {piece piece' : Inline} (h : piece.Precedes piece') :
    piece.Apart piece' := by
  cases piece <;> cases piece' <;> trivial

theorem Inline.shown_subset_spell (piece : Inline) : piece.shown ⊆ piece.spell := by
  cases piece with
  | text t => exact List.Subset.refl t
  | bold t => exact fun c hc => by simp [Inline.spell, show c ∈ t from hc]

/-- **Reading a line gives proper content.** -/
theorem proper_inlines {t : Text} (hne : t ≠ []) (h : '\n' ∉ t) : ProperContent (inlines t) where
  ne_nil := (legible_inlines hne h).ne_nil
  shown_ne_nil := (canonical_inlines t).shown_ne_nil
  newline_notMem piece hpiece hmem := by
    refine h ?_
    rw [← spell_inlines t]
    exact List.mem_flatMap.2 ⟨piece, hpiece, piece.shown_subset_spell hmem⟩
  isChain_apart := (canonical_inlines t).isChain_precedes.imp fun _ _ => Inline.Precedes.apart

theorem Line.Holds.proper {l : Line} (h : l.Holds) : ProperContent (inlines l.content) :=
  proper_inlines h.content_ne_nil h.newline_notMem

/-! ### Proper nodes -/

namespace Node

/-- Two nodes that may stand side by side in a paragraph: anything but two lists of one kind. -/
def Apart : Node → Node → Prop
  | list kind _, list kind' _ => kind ≠ kind'
  | _, _ => True

/-- Two nodes of which the second may stand behind the first at the top level: anything but a line
behind a paragraph. -/
def Precedes : Node → Node → Prop
  | paragraph _, line _ => False
  | _, _ => True

/-- A node that is no paragraph, with proper content and, if it is a list, with items. -/
def Flat : Node → Prop
  | heading content => ProperContent content
  | line content => ProperContent content
  | list _ items => items ≠ [] ∧ ∀ item ∈ items, ProperContent item
  | paragraph _ => False

end Node

/-- What a paragraph holds: a line comes first, and nothing in it is a paragraph. -/
structure ProperParagraph (children : List Node) : Prop where
  head : ∃ content, children.head? = some (.line content)
  flat : ∀ child ∈ children, child.Flat
  isChain_apart : children.IsChain Node.Apart

/-- A node as it stands at the top level. -/
def Node.Proper : Node → Prop
  | paragraph children => ProperParagraph children
  | node => node.Flat

/-- A tree of the shape that the display tree of a source has. -/
structure ProperTree (tree : List Node) : Prop where
  proper : ∀ node ∈ tree, node.Proper
  /-- A line does not come first. -/
  head : ∀ content, tree.head? ≠ some (.line content)
  isChain_precedes : tree.IsChain Node.Precedes

theorem Node.Flat.proper {node : Node} (h : node.Flat) : node.Proper := by
  cases node with
  | paragraph children => exact h.elim
  | _ => exact h

theorem Node.Flat.precedes {node : Node} (h : node.Flat) (node' : Node) : node.Precedes node' := by
  cases node with
  | paragraph children => exact h.elim
  | _ => trivial

theorem properTree_nil : ProperTree [] where
  proper _ h := absurd h List.not_mem_nil
  head _ h := by cases h
  isChain_precedes := .nil

/-- **Proper trees one behind the other make a proper tree**, because none begins with a line. -/
theorem ProperTree.append {tree tree' : List Node} (h : ProperTree tree) (h' : ProperTree tree') :
    ProperTree (tree ++ tree') where
  proper node hnode := (List.mem_append.1 hnode).elim (h.proper node) (h'.proper node)
  head content := by
    cases tree with
    | nil => exact h'.head content
    | cons node tree => exact h.head content
  isChain_precedes := by
    refine h.isChain_precedes.append h'.isChain_precedes fun node _ node' hnode' => ?_
    cases node' with
    | line content => exact absurd hnode' (h'.head content)
    | _ => cases node <;> trivial

/-- There is nothing in a proper tree for pruning to take away. -/
theorem ProperTree.prune_eq {tree : List Node} (h : ProperTree tree) : prune tree = tree := by
  refine List.filter_eq_self.2 fun node hnode => ?_
  have hproper := h.proper node hnode
  unfold Node.isEmptyParagraph
  split
  · obtain ⟨content, hcontent⟩ := hproper.head
    cases hcontent
  · rfl

/-! ### Blocks -/

/-- A grouped element of lines that hold content is shown by a flat node. -/
private theorem flat_node? {e : Element} (hgrouped : e.Grouped) (hholds : ∀ l ∈ e.expand, l.Holds) :
    ∃ node, e.node? = some node ∧ node.Flat := by
  cases e with
  | list kind items =>
    have hne : items ≠ [] := hgrouped
    refine ⟨_, rfl, by simpa using hne, fun content hcontent => ?_⟩
    obtain ⟨t, ht, rfl⟩ := List.mem_map.1 hcontent
    exact (hholds (.item kind.marker t) (List.mem_map.2 ⟨t, ht, rfl⟩)).proper
  | line l =>
    have hl : l.Holds := hholds l (List.mem_singleton.2 rfl)
    cases l with
    | blank => exact absurd rfl hl.content_ne_nil
    | item marker t => exact hgrouped.elim
    | _ => exact ⟨_, rfl, hl.proper⟩

/-- Elements that may stand side by side are shown by nodes that may. -/
private theorem apart_of_node? {e e' : Element} (h : e.Apart e') {node node' : Node}
    (hnode : e.node? = some node) (hnode' : e'.node? = some node') : node.Apart node' := by
  cases e with
  | line l => cases l <;> cases hnode <;> trivial
  | list kind items =>
    cases hnode
    cases e' with
    | line l => cases l <;> cases hnode' <;> trivial
    | list kind' items' =>
      cases hnode'
      exact h

variable {elements : List Element}

private theorem forall_flat_nodes
    (hnode : ∀ e ∈ elements, ∃ node, e.node? = some node ∧ node.Flat) :
    ∀ node ∈ elements.filterMap Element.node?, node.Flat := by
  intro node hmem
  obtain ⟨e, he, hsome⟩ := List.mem_filterMap.1 hmem
  obtain ⟨node', hsome', hflat⟩ := hnode e he
  rw [hsome, Option.some.injEq] at hsome'
  exact hsome' ▸ hflat

private theorem isChain_nodes (hnode : ∀ e ∈ elements, ∃ node, e.node? = some node ∧ node.Flat)
    (hapart : elements.IsChain Element.Apart) :
    (elements.filterMap Element.node?).IsChain Node.Apart := by
  induction elements with
  | nil => exact .nil
  | cons e elements ih =>
    have hrest := ih (fun e' he' => hnode e' (List.mem_cons_of_mem e he')) hapart.tail
    obtain ⟨node, hsome, -⟩ := hnode e List.mem_cons_self
    rw [List.filterMap_cons_some hsome]
    refine hrest.cons fun node' hnode' => ?_
    cases elements with
    | nil => cases hnode'
    | cons e' elements =>
      -- Every element is shown, so the next node shows the next element.
      obtain ⟨shown, hshown, -⟩ := hnode e' (by simp)
      rw [List.filterMap_cons_some hshown] at hnode'
      obtain rfl : shown = node' := by simpa using hnode'
      exact apart_of_node? (List.isChain_cons_cons.1 hapart).1 hsome hshown

/-- **A block of flat nodes makes a proper tree**: nodes behind a heading or a list stand at the top
level, and any others in a paragraph that begins with a line. -/
theorem proper_enclose (hnode : ∀ e ∈ elements, ∃ node, e.node? = some node ∧ node.Flat)
    (hapart : elements.IsChain Element.Apart) : ProperTree (enclose elements) := by
  have hflat := forall_flat_nodes hnode
  have hchain := isChain_nodes hnode hapart
  unfold enclose
  split
  · exact properTree_nil
  · next first rest heq =>
    rw [heq] at hflat hchain
    split
    · next halone =>
      refine ⟨fun node hmem => (hflat node hmem).proper, fun content hhead => ?_, ?_⟩
      · obtain rfl : first = .line content := by simpa using hhead
        cases halone
      · exact (List.isChain_iff_forall_rel_of_append_cons_cons).2 fun node node' l₁ l₂ hsplit =>
          (hflat node (by rw [hsplit]; simp)).precedes node'
    · next halone =>
      have hline : ∃ content, first = .line content := by
        have hfirst := hflat first List.mem_cons_self
        cases first with
        | line content => exact ⟨content, rfl⟩
        | paragraph children => exact hfirst.elim
        | _ => exact absurd rfl halone
      obtain ⟨content, rfl⟩ := hline
      refine ⟨fun node hmem => ?_, fun _ hhead => (by cases hhead), .singleton _⟩
      rw [List.mem_singleton.1 hmem]
      exact ⟨⟨content, rfl⟩, hflat, hchain⟩

/-- **A block with content in all its lines is shown by a proper tree.** -/
theorem proper_blockNodes {block : List Line} (h : ∀ l ∈ block, l.Holds) :
    ProperTree (blockNodes block) := by
  have hholds := holds_of_mem_trimEdges h
  refine proper_enclose (fun e he => flat_node? (grouped_of_mem_gatherRemaining he) ?_)
    (isChain_gatherRemaining (trimEdges block))
  intro l hl
  refine hholds l ?_
  rw [← flatMap_expand_gatherRemaining (trimEdges block)]
  exact List.mem_flatMap.2 ⟨e, he, hl⟩

/-! ### Display trees -/

/-- Blocks one behind the other make a proper tree. -/
private theorem proper_flatMap_blockNodes {bs : List (List Line)}
    (h : ∀ block ∈ bs, ∀ l ∈ block, l.Holds) : ProperTree (bs.flatMap blockNodes) := by
  induction bs with
  | nil => exact properTree_nil
  | cons block bs ih =>
    rw [List.flatMap_cons]
    exact (proper_blockNodes (h block List.mem_cons_self)).append
      (ih fun b hb => h b (List.mem_cons_of_mem block hb))

/-- Pruning takes nothing away. -/
theorem displayTree_eq_flatMap (source : Text) :
    displayTree source = (blocks (classify source)).flatMap blockNodes :=
  (proper_flatMap_blockNodes fun _ => holds_of_mem_blocks).prune_eq

/-- **A display tree is a proper tree.** -/
theorem proper_displayTree (source : Text) : ProperTree (displayTree source) :=
  displayTree_eq_flatMap source ▸ proper_flatMap_blockNodes fun _ => holds_of_mem_blocks

/-- **A display tree is empty exactly if its source is white space.** -/
theorem displayTree_eq_nil_iff {source : Text} :
    displayTree source = [] ↔ allBlank source = true := by
  constructor
  · intro hnil
    by_contra hblank
    exact displayTree_ne_nil (by simpa using hblank) hnil
  · intro hblank
    rw [displayTree_eq_flatMap, List.flatMap_eq_nil_iff]
    intro block hblock
    -- All lines of the block are white space, so trimming leaves none.
    have hlines : ∀ l ∈ block, l.isBlankText = true := by
      intro l hl
      obtain ⟨hne, t, ht, rfl⟩ := exists_of_mem_blocks hblock hl
      have htnil : t ≠ [] := fun hnil => hne (hnil ▸ rfl)
      have htblank : allBlank t = true := by
        refine allBlank_eq_true_iff.2 fun c hc => allBlank_eq_true_iff.1 hblank c ?_
        exact subset_of_mem_lines ht hc
      rw [Line.classOf_of_allBlank htnil htblank]
      exact htblank
    have htrim : trimEdges block = [] := by
      rw [trimEdges, List.dropWhile_eq_nil_iff.2 hlines]
      rfl
    rw [blockNodes, htrim]
    rfl

end ServiceCharter.Markup

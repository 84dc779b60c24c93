import ServiceCharter.Html.Page
import ServiceCharter.Proofs.Html.Reading
import ServiceCharter.Proofs.Markup.Contents

/-!
# Faithful HTML

The HTML of a source shows its display tree, and hides none of it: two sources with the same HTML
have the same display tree (`renderFragment_eq_iff`). This is not so for all trees. A line is
written without tags, so an empty line would vanish among its neighbours, and a line feed in a text
would look like the end of a line. It is so for trees whose leaves are legible, which those of a
source are.

What is shown is compared as marks, together with those that follow. Two pieces of a tree are
`ToldApart` if their marks tell which of them it is and where it ends, whatever ends such a piece:
content ends where a mark cannot stand in content (`content_toldApart`), and siblings end where the
element around them is closed (`siblings_toldApart`). A node is told from any other by one or the
other (`node_toldApart`).
-/

namespace ServiceCharter.Html

open Text Markup

/-! ### Ends -/

/-- Whether a mark may stand in the content of a line: a tag of a bold span, or a character other
than a line feed. -/
def Mark.isInline : Mark → Bool
  | opening tag => tag == .strong
  | closing tag => tag == .strong
  | char c => c != '\n'

/-- The marks do not go on with content. -/
def EndsContent (ms : List Mark) : Prop := ∀ m ∈ ms.head?, m.isInline = false

/-- The marks do not go on with a sibling: there are none, or an element is closed. -/
def EndsSiblings (ms : List Mark) : Prop := ∀ m ∈ ms.head?, ∃ tag, tag ≠ .strong ∧ m = .closing tag

theorem EndsSiblings.endsContent {r : List Mark} (h : EndsSiblings r) : EndsContent r := by
  intro m hm
  obtain ⟨tag, htag, rfl⟩ := h m hm
  simpa [Mark.isInline] using htag

private theorem endsSiblings_closing {tag : Tag} (h : tag ≠ .strong) (r : List Mark) :
    EndsSiblings (.closing tag :: r) := by
  intro m hm
  exact ⟨tag, h, by simpa using hm.symm⟩

private theorem endsSiblings_nil : EndsSiblings [] := fun _ h => nomatch h

/-- The pieces of two things tell these apart, and where they end, before marks that end a piece. -/
def ToldApart {α : Type} (ends : List Mark → Prop) (piece : α → List Token) (a b : α) : Prop :=
  ∀ ⦃r r' : List Mark⦄, ends r → ends r' →
    marks (piece a) ++ r = marks (piece b) ++ r' → a = b ∧ r = r'

/-! ### Content -/

/-- How a mark is spelled in the content of a line. -/
private def Mark.spell : Mark → Text
  | char c => [c]
  | _ => Inline.delimiter

private theorem flatMap_spell_marks_text (t : Text) : (marks [.text t]).flatMap Mark.spell = t := by
  rw [marks_text, List.flatMap_map]
  exact List.flatMap_singleton' t

/-- The marks of content keep its spelling. -/
private theorem flatMap_spell_marks (content : List Inline) :
    (marks (contentTokens content)).flatMap Mark.spell = spell content := by
  induction content with
  | nil => rfl
  | cons inline content ih =>
    have hinline : (marks (inlineTokens inline)).flatMap Mark.spell = inline.spell := by
      cases inline with
      | text t => exact flatMap_spell_marks_text t
      | bold t =>
        rw [inlineTokens, marks_element, List.flatMap_cons, List.flatMap_append,
          flatMap_spell_marks_text]
        rfl
    rw [marks_contentTokens_cons, List.flatMap_append, hinline, ih]
    rfl

/-- Content on one line has marks that may stand in content. -/
private theorem isInline_of_mem_marks {content : List Inline} (h : '\n' ∉ spell content) :
    ∀ m ∈ marks (contentTokens content), m.isInline = true := by
  intro m hm
  induction content with
  | nil => exact absurd hm List.not_mem_nil
  | cons inline content ih =>
    have hspell : spell (inline :: content) = inline.spell ++ spell content := rfl
    rw [hspell, List.mem_append, not_or] at h
    rw [marks_contentTokens_cons, List.mem_append] at hm
    have htext : ∀ t, '\n' ∉ t → m ∈ marks [.text t] → m.isInline = true := by
      intro t ht hmem
      rw [marks_text] at hmem
      obtain ⟨c, hc, rfl⟩ := List.mem_map.1 hmem
      have hne : c ≠ '\n' := fun heq => ht (heq ▸ hc)
      simpa [Mark.isInline] using hne
    rcases hm with hm | hm
    · cases inline with
      | text t => exact htext t h.1 hm
      | bold t =>
        rw [inlineTokens, marks_element, List.mem_cons, List.mem_append, List.mem_singleton] at hm
        rcases hm with rfl | hm | rfl
        · rfl
        · exact htext t (fun hmem => h.1 (by simp [Inline.spell, hmem])) hm
        · rfl
    · exact ih h.2 hm

private theorem marks_contentTokens_ne_nil {content : List Inline} (h : Legible content) :
    marks (contentTokens content) ≠ [] := by
  intro hnil
  have hspell := flatMap_spell_marks content
  rw [hnil] at hspell
  exact h.spell_ne_nil hspell.symm

/-- **Content can be told from other content.** -/
theorem content_toldApart {content content' : List Inline} (h : Legible content)
    (h' : Legible content') : ToldApart EndsContent contentTokens content content' := by
  intro r r' hr hr' heq
  -- The marks of the content are those up to the first that cannot stand in it.
  have htake : ∀ {content r}, Legible content → EndsContent r →
      (marks (contentTokens content) ++ r).takeWhile Mark.isInline =
        marks (contentTokens content) := by
    intro content r h hr
    have hnil : r.takeWhile Mark.isInline = [] := by
      cases r with
      | nil => rfl
      | cons m r => exact List.takeWhile_cons_of_neg (by simp [hr m rfl])
    rw [List.takeWhile_append_of_pos (isInline_of_mem_marks h.newline_notMem), hnil,
      List.append_nil]
  have hmarks : marks (contentTokens content) = marks (contentTokens content') := by
    rw [← htake h hr, heq, htake h' hr']
  have hspell : spell content = spell content' := by
    rw [← flatMap_spell_marks, hmarks, flatMap_spell_marks]
  refine ⟨?_, ?_⟩
  · rw [← h.inlines_spell, hspell, h'.inlines_spell]
  · rw [hmarks] at heq
    exact List.append_cancel_left heq

/-! ### Siblings -/

section Siblings

variable {α : Type} {piece : α → List Token}

/-- What is told apart wherever content ends is told apart where siblings end. -/
theorem ToldApart.of_endsContent {a b : α} (h : ToldApart EndsContent piece a b) :
    ToldApart EndsSiblings piece a b := fun _ _ hr hr' => h hr.endsContent hr'.endsContent

/-- What is told apart before the end of an element is told apart in the element. -/
theorem ToldApart.element {a b : α} (h : ToldApart EndsSiblings piece a b)
    {ends : List Mark → Prop} {tag : Tag} (htag : tag ≠ .strong) :
    ToldApart ends (fun a => element tag (piece a)) a b := by
  intro r r' _ _ heq
  have hinner : marks (piece a) ++ .closing tag :: r = marks (piece b) ++ .closing tag :: r' := by
    simpa [marks_element] using heq
  obtain ⟨rfl, hrest⟩ := h (endsSiblings_closing htag r) (endsSiblings_closing htag r') hinner
  exact ⟨rfl, (List.cons_eq_cons.1 hrest).2⟩

/-- The marks begin as those of a sibling may. -/
def Begins (ms : List Mark) : Prop :=
  ∃ m ∈ ms.head?, m.isInline = true ∨ ∃ tag, m = .opening tag

private theorem begins_marks_element (tag : Tag) (ts : List Token) :
    Begins (marks (element tag ts)) := by
  rw [marks_element]
  exact ⟨.opening tag, rfl, Or.inr ⟨tag, rfl⟩⟩

/-- What ends siblings is not the beginning of one. -/
theorem EndsSiblings.not_begins {r ms : List Mark} (h : EndsSiblings r) (hms : Begins ms)
    {rest : List Mark} (heq : r = ms ++ rest) : False := by
  obtain ⟨m, hm, hbegins⟩ := hms
  have hhead : m ∈ r.head? := by
    rw [heq, List.head?_append, Option.mem_def.1 hm]
    rfl
  obtain ⟨tag, htag, rfl⟩ := h m hhead
  rcases hbegins with hinline | ⟨tag', hopening⟩
  · simp [Mark.isInline, htag] at hinline
  · cases hopening

variable (piece) in
/-- The marks of the siblings that follow another. -/
private def followers (as : List α) : List Mark :=
  as.flatMap fun a => .char '\n' :: marks (piece a)

private theorem marks_separate_map_cons (a : α) (as : List α) :
    marks (separate ((a :: as).map piece)) = marks (piece a) ++ followers piece as := by
  induction as generalizing a with
  | nil => exact (List.append_nil _).symm
  | cons b as ih =>
    rw [List.map_cons, marks_separate_cons _ (by simp), ih b]
    rfl

private theorem endsContent_followers {as : List α} {r : List Mark} (hr : EndsSiblings r) :
    EndsContent (followers piece as ++ r) := by
  cases as with
  | nil => exact hr.endsContent
  | cons a as =>
    intro m hm
    obtain rfl : Mark.char '\n' = m := by simpa [followers] using hm
    rfl

private theorem followers_unique {as bs : List α}
    (htold : ∀ a ∈ as, ∀ b ∈ bs, ToldApart EndsContent piece a b)
    {r r' : List Mark} (hr : EndsSiblings r) (hr' : EndsSiblings r')
    (heq : followers piece as ++ r = followers piece bs ++ r') : as = bs ∧ r = r' := by
  have hnot : ∀ {r rest : List Mark}, EndsSiblings r → r ≠ .char '\n' :: rest := by
    rintro _ rest h rfl
    obtain ⟨tag, -, hchar⟩ := h _ rfl
    cases hchar
  induction as generalizing bs with
  | nil =>
    cases bs with
    | nil => exact ⟨rfl, heq⟩
    | cons b bs => exact absurd heq (hnot hr)
  | cons a as ih =>
    cases bs with
    | nil => exact absurd heq.symm (hnot hr')
    | cons b bs =>
      have htail : marks (piece a) ++ (followers piece as ++ r) =
          marks (piece b) ++ (followers piece bs ++ r') := by
        simpa [followers] using heq
      obtain ⟨rfl, hrest⟩ := htold a List.mem_cons_self b List.mem_cons_self
        (endsContent_followers hr) (endsContent_followers hr') htail
      obtain ⟨rfl, rfl⟩ := ih (fun a' ha' b' hb' =>
        htold a' (List.mem_cons_of_mem a ha') b' (List.mem_cons_of_mem a hb')) hrest
      exact ⟨rfl, rfl⟩

/-- **Siblings can be told from other siblings.** -/
theorem siblings_toldApart {as bs : List α}
    (htold : ∀ a ∈ as, ∀ b ∈ bs, ToldApart EndsContent piece a b)
    (hbegins : ∀ a ∈ as, Begins (marks (piece a)))
    (hbegins' : ∀ b ∈ bs, Begins (marks (piece b))) :
    ToldApart EndsSiblings (fun as => separate (as.map piece)) as bs := by
  intro r r' hr hr' heq
  cases as with
  | nil =>
    cases bs with
    | nil => exact ⟨rfl, heq⟩
    | cons b bs =>
      rw [marks_separate_map_cons, List.append_assoc] at heq
      exact (hr.not_begins (hbegins' b List.mem_cons_self) heq).elim
  | cons a as =>
    cases bs with
    | nil =>
      rw [marks_separate_map_cons, List.append_assoc] at heq
      exact (hr'.not_begins (hbegins a List.mem_cons_self) heq.symm).elim
    | cons b bs =>
      rw [marks_separate_map_cons, marks_separate_map_cons, List.append_assoc,
        List.append_assoc] at heq
      obtain ⟨rfl, hrest⟩ := htold a List.mem_cons_self b List.mem_cons_self
        (endsContent_followers hr) (endsContent_followers hr') heq
      obtain ⟨rfl, rfl⟩ := followers_unique (fun a' ha' b' hb' =>
        htold a' (List.mem_cons_of_mem a ha') b' (List.mem_cons_of_mem a hb')) hr hr' hrest
      exact ⟨rfl, rfl⟩

end Siblings

/-! ### Nodes -/

/-- The element in which a node is shown; a line is shown without one. -/
def tag? : Node → Option Tag
  | .heading _ => some .h2
  | .line _ => none
  | .paragraph _ => some .p
  | .list kind _ => some (listTag kind)

/-- The element that the marks open, unless it is a bold span. -/
private def firstTag? : List Mark → Option Tag
  | .opening tag :: _ => if tag = .strong then none else some tag
  | _ => none

private theorem listTag_ne {kind : ListKind} {tag : Tag} (hul : tag ≠ .ul) (hol : tag ≠ .ol) :
    listTag kind ≠ tag := by
  cases kind with
  | unordered => exact hul.symm
  | ordered => exact hol.symm

private theorem listTag_inj {kind kind' : ListKind} :
    listTag kind = listTag kind' ↔ kind = kind' := by
  cases kind <;> cases kind' <;> decide

/-- The leaves of the node are legible. -/
def IsLegible (node : Node) : Prop := ∀ leaf ∈ node.leaves, Legible leaf.content

theorem IsLegible.of_mem {children : List Node} (h : IsLegible (.paragraph children)) {child : Node}
    (hchild : child ∈ children) : IsLegible child := fun leaf hleaf =>
  h leaf (by
    rw [Node.leaves, Node.leavesOf_eq_flatMap]
    exact List.mem_flatMap.2 ⟨child, hchild, hleaf⟩)

private theorem isLegible_heading {content : List Inline} :
    IsLegible (.heading content) ↔ Legible content := by
  simp [IsLegible, Node.leaves]

private theorem isLegible_line {content : List Inline} :
    IsLegible (.line content) ↔ Legible content := by
  simp [IsLegible, Node.leaves]

private theorem isLegible_list {kind : ListKind} {items : List (List Inline)} :
    IsLegible (.list kind items) ↔ ∀ item ∈ items, Legible item := by
  simp [IsLegible, Node.leaves]

private theorem head?_marks_contentTokens {content : List Inline} (h : Legible content) :
    ∃ m ∈ (marks (contentTokens content)).head?, m.isInline = true := by
  obtain ⟨m, ms, hmarks⟩ := List.exists_cons_of_ne_nil (marks_contentTokens_ne_nil h)
  refine ⟨m, by rw [hmarks]; rfl, isInline_of_mem_marks h.newline_notMem m ?_⟩
  rw [hmarks]
  exact List.mem_cons_self

private theorem begins_marks_nodeTokens {node : Node} (h : IsLegible node) :
    Begins (marks (nodeTokens node)) := by
  cases node with
  | line content =>
    rw [nodeTokens]
    obtain ⟨m, hm, hinline⟩ := head?_marks_contentTokens (isLegible_line.1 h)
    exact ⟨m, hm, Or.inl hinline⟩
  | heading content =>
    rw [nodeTokens]
    exact begins_marks_element _ _
  | paragraph children =>
    rw [nodeTokens]
    exact begins_marks_element _ _
  | list kind items =>
    rw [nodeTokens]
    exact begins_marks_element _ _

/-- The marks of a node tell in which element it is shown. -/
private theorem firstTag?_marks_nodeTokens {node : Node} (h : IsLegible node) (r : List Mark) :
    firstTag? (marks (nodeTokens node) ++ r) = tag? node := by
  have helement : ∀ {tag : Tag}, tag ≠ .strong → ∀ ts,
      firstTag? (marks (element tag ts) ++ r) = some tag := by
    intro tag htag ts
    rw [marks_element]
    exact if_neg htag
  cases node with
  | line content =>
    obtain ⟨m, hm, hinline⟩ := head?_marks_contentTokens (isLegible_line.1 h)
    obtain ⟨ms, hmarks⟩ := List.head?_eq_some_iff.1 hm
    rw [nodeTokens, hmarks, tag?]
    cases m with
    | opening tag => exact if_pos (by simpa [Mark.isInline] using hinline)
    | _ => rfl
  | heading content =>
    rw [nodeTokens]
    exact helement (by decide) _
  | paragraph children =>
    rw [nodeTokens]
    exact helement (by decide) _
  | list kind items =>
    rw [nodeTokens]
    exact helement (listTag_ne (by decide) (by decide)) _

private theorem tag?_eq_of_marks {node node' : Node} (h : IsLegible node) (h' : IsLegible node')
    {r r' : List Mark} (heq : marks (nodeTokens node) ++ r = marks (nodeTokens node') ++ r') :
    tag? node = tag? node' := by
  rw [← firstTag?_marks_nodeTokens h r, heq, firstTag?_marks_nodeTokens h']

/-- **A node can be told from any other.** -/
theorem node_toldApart {node node' : Node} (h : IsLegible node) (h' : IsLegible node') :
    ToldApart EndsContent nodeTokens node node' := by
  induction node using Node.induction generalizing node' with
  | heading content =>
    intro r r' hr hr' heq
    have htag := tag?_eq_of_marks h h' heq
    cases node' with
    | heading content' =>
      have hcontent := content_toldApart (isLegible_heading.1 h) (isLegible_heading.1 h')
      rw [nodeTokens, nodeTokens] at heq
      obtain ⟨rfl, hrest⟩ := hcontent.of_endsContent.element (by decide) hr hr' heq
      exact ⟨rfl, hrest⟩
    | list kind items =>
      exact absurd (Option.some.inj htag).symm (listTag_ne (by decide) (by decide))
    | _ => cases htag
  | line content =>
    intro r r' hr hr' heq
    have htag := tag?_eq_of_marks h h' heq
    cases node' with
    | line content' =>
      rw [nodeTokens, nodeTokens] at heq
      obtain ⟨rfl, hrest⟩ :=
        content_toldApart (isLegible_line.1 h) (isLegible_line.1 h') hr hr' heq
      exact ⟨rfl, hrest⟩
    | _ => cases htag
  | paragraph children ih =>
    intro r r' hr hr' heq
    have htag := tag?_eq_of_marks h h' heq
    cases node' with
    | paragraph children' =>
      have hchildren := siblings_toldApart
        (fun child hchild child' hchild' => ih child hchild (h.of_mem hchild) (h'.of_mem hchild'))
        (fun child hchild => begins_marks_nodeTokens (h.of_mem hchild))
        (fun child hchild => begins_marks_nodeTokens (h'.of_mem hchild))
      rw [nodeTokens, nodeTokens, childTokens_eq_map, childTokens_eq_map] at heq
      obtain ⟨rfl, hrest⟩ := hchildren.element (by decide) hr hr' heq
      exact ⟨rfl, hrest⟩
    | list kind items =>
      exact absurd (Option.some.inj htag).symm (listTag_ne (by decide) (by decide))
    | _ => cases htag
  | list kind items =>
    intro r r' hr hr' heq
    have htag := tag?_eq_of_marks h h' heq
    cases node' with
    | list kind' items' =>
      obtain rfl := listTag_inj.1 (Option.some.inj htag)
      have hitem : ∀ item ∈ items, ∀ item' ∈ items',
          ToldApart EndsContent (fun item => element .li (contentTokens item)) item item' := by
        intro item hitem item' hitem'
        have hcontent :=
          content_toldApart (isLegible_list.1 h item hitem) (isLegible_list.1 h' item' hitem')
        exact hcontent.of_endsContent.element (by decide)
      have hitems := siblings_toldApart hitem
        (fun item _ => begins_marks_element .li (contentTokens item))
        (fun item _ => begins_marks_element .li (contentTokens item))
      rw [nodeTokens, nodeTokens] at heq
      have htag : listTag kind ≠ .strong := listTag_ne (by decide) (by decide)
      obtain ⟨rfl, hrest⟩ := hitems.element htag hr hr' heq
      exact ⟨rfl, hrest⟩
    | line content => cases htag
    | _ => exact absurd (Option.some.inj htag) (listTag_ne (by decide) (by decide))

/-! ### Display trees -/

/-- **Trees with legible leaves have the same HTML only if they are the same.** -/
theorem eq_of_fragment_eq {tree tree' : List Node} (h : ∀ node ∈ tree, IsLegible node)
    (h' : ∀ node ∈ tree', IsLegible node) (heq : fragment tree = fragment tree') :
    tree = tree' := by
  have hread : marks (treeTokens tree) = marks (treeTokens tree') := by
    have htree := read?_print (treeTokens tree)
    rw [show print (treeTokens tree) = print (treeTokens tree') from heq, read?_print] at htree
    exact (Option.some.inj htree).symm
  rw [treeTokens, treeTokens, childTokens_eq_map, childTokens_eq_map,
    ← List.append_nil (marks _), ← List.append_nil (marks (separate (tree'.map _)))] at hread
  exact (siblings_toldApart
    (fun node hnode node' hnode' => node_toldApart (h node hnode) (h' node' hnode'))
    (fun node hnode => begins_marks_nodeTokens (h node hnode))
    (fun node hnode => begins_marks_nodeTokens (h' node hnode))
    endsSiblings_nil endsSiblings_nil hread).1

private theorem isLegible_of_mem_displayTree {source : Text} {node : Node}
    (h : node ∈ displayTree source) : IsLegible node := fun leaf hleaf =>
  legible_of_mem_leavesOf_displayTree (by
    rw [Node.leavesOf_eq_flatMap]
    exact List.mem_flatMap.2 ⟨node, h, hleaf⟩)

/-- **The HTML of a source is a faithful image of its display tree.** Two sources have the same HTML
exactly if they have the same headings, paragraphs, lists, lines and bold spans. -/
theorem renderFragment_eq_iff (source source' : Text) :
    renderFragment source = renderFragment source' ↔ displayTree source = displayTree source' :=
  ⟨eq_of_fragment_eq (fun _ => isLegible_of_mem_displayTree) fun _ => isLegible_of_mem_displayTree,
    congrArg fragment⟩

end ServiceCharter.Html

import Mathlib.Data.List.Forall2
import ServiceCharter.Proofs.Markup.Classes
import ServiceCharter.Proofs.Markup.Grouping
import ServiceCharter.Proofs.Markup.Trimming

/-!
# The leaves of a display tree

The leaves of a tree are its headings, its list items and its lines, in the order in which they are
read. `forall₂_shows_leaves_displayTree` says that no line of a source is dropped, duplicated or
moved on the way to the tree: leaving white space out on both sides, the leaves correspond one by
one to the lines, each leaf has the class of its line, and its spelling is the content of the line.

The invariant of the way is the list of *essences*: what remains of a line when white space around
text no longer counts (`Line.essence?`). Cutting into blocks, trimming their edges, gathering items
and enclosing elements in paragraphs each leave that list as it is.
-/

namespace ServiceCharter.Markup

open Text

/-! ### Leaves -/

/-- What a leaf of a display tree is. -/
inductive LeafKind where
  | heading
  | item (kind : ListKind)
  | line
deriving DecidableEq, Repr

/-- A leaf of a display tree. -/
structure Leaf where
  kind : LeafKind
  content : List Inline
deriving DecidableEq, Repr

namespace Node

mutual

/-- The leaves of a node, in the order in which they are read. -/
def leaves : Node → List Leaf
  | heading content => [⟨.heading, content⟩]
  | line content => [⟨.line, content⟩]
  | paragraph children => leavesOf children
  | list kind items => items.map fun content => ⟨.item kind, content⟩

/-- The leaves of the nodes of a list. -/
def leavesOf : List Node → List Leaf
  | [] => []
  | node :: nodes => node.leaves ++ leavesOf nodes

end

theorem leavesOf_eq_flatMap (nodes : List Node) : leavesOf nodes = nodes.flatMap leaves := by
  induction nodes with
  | nil => rfl
  | cons node nodes ih => rw [leavesOf, ih, List.flatMap_cons]

@[simp] theorem leavesOf_append (nodes nodes' : List Node) :
    leavesOf (nodes ++ nodes') = leavesOf nodes ++ leavesOf nodes' := by
  simp [leavesOf_eq_flatMap]

end Node

namespace Leaf

/-- The line that a leaf shows, spelled out. -/
def toLine (leaf : Leaf) : Line :=
  match leaf.kind with
  | .heading => .heading (spell leaf.content)
  | .item kind => .item kind.marker (spell leaf.content)
  | .line => .text (spell leaf.content)

/-- Whether the leaf is a line of white space. -/
def isBlankLine (leaf : Leaf) : Bool := leaf.toLine.isBlankText

/-- The leaf shows a line with the given class: it is of the kind that goes with the class, and its
spelling is the content behind the marker or, for a line without marker, the text up to white space
at its ends. -/
def Shows (leaf : Leaf) : Line → Prop
  | .blank => False
  | .text t => leaf.kind = .line ∧ trim (spell leaf.content) = trim t
  | .heading title => leaf.kind = .heading ∧ spell leaf.content = title
  | .item marker t => leaf.kind = .item marker.listKind ∧ spell leaf.content = t

instance decidableShows (leaf : Leaf) : (l : Line) → Decidable (leaf.Shows l)
  | .blank => inferInstanceAs (Decidable False)
  | .text _ => inferInstanceAs (Decidable (_ ∧ _))
  | .heading _ => inferInstanceAs (Decidable (_ ∧ _))
  | .item _ _ => inferInstanceAs (Decidable (_ ∧ _))

end Leaf

/-! ### Essences -/

namespace Line

/-- What remains of a line when white space around text does not count: nothing of a line of white
space, and the trimmed text of any other line without a marker. -/
def essence? : Line → Option Line
  | blank => none
  | text t => if allBlank t then none else some (text (trim t))
  | line => some line

private theorem essence?_of_isBlankText {l : Line} (h : l.isBlankText = true) :
    l.essence? = none := by
  cases l with
  | text t => simpa [essence?, isBlankText] using h
  | _ => cases h

/-- Trimming a text does not show in its essence. -/
private theorem essence?_text_congr {t u : Text} (h : trim t = trim u) :
    (text t).essence? = (text u).essence? := by
  have hblank : allBlank t = allBlank u := by
    rw [Bool.eq_iff_iff, ← trim_eq_nil_iff, ← trim_eq_nil_iff, h]
  simp only [essence?, hblank, h]

private theorem essence?_trimStart (l : Line) : l.trimStart.essence? = l.essence? := by
  cases l with
  | text t => exact essence?_text_congr (Text.trim_trimStart t)
  | _ => rfl

private theorem essence?_trimEnd (l : Line) : l.trimEnd.essence? = l.essence? := by
  cases l with
  | text t => exact essence?_text_congr (Text.trim_trimEnd t)
  | _ => rfl

/-- The lines of a source that have an essence are those that are not white space. -/
theorem isSome_essence?_classOf (t : Text) : (classOf t).essence?.isSome = !allBlank t := by
  rcases eq_or_ne t [] with rfl | hne
  · rfl
  rcases Bool.eq_false_or_eq_true (allBlank t) with h | h
  · rw [classOf_of_allBlank hne h]
    simp [essence?, h]
  · rcases classOf_cases hne with ⟨_, _, hc⟩ | ⟨_, _, hc⟩ | ⟨_, _, hc⟩ | ⟨_, hc⟩ <;>
      simp [hc, essence?, h]

end Line

/-- A leaf shows every line with which it has its essence in common. -/
theorem Leaf.shows_of_essence?_eq {leaf : Leaf} {l e : Line} (hleaf : leaf.toLine.essence? = some e)
    (hl : l.essence? = some e) : leaf.Shows l := by
  obtain ⟨kind, content⟩ := leaf
  -- Only a line without a marker differs from its essence, and only in white space at its ends.
  cases l with
  | blank => cases hl
  | text t =>
    simp only [Line.essence?, Option.ite_none_left_eq_some, Option.some.injEq] at hl
    obtain ⟨-, rfl⟩ := hl
    cases kind <;> simp_all [Leaf.toLine, Line.essence?, Leaf.Shows]
  | heading title =>
    cases hl
    cases kind <;> simp_all [Leaf.toLine, Line.essence?, Leaf.Shows]
  | item marker t =>
    cases hl
    cases kind with
    | item kind =>
      simp only [Leaf.toLine, Line.essence?, Option.some.injEq, Line.item.injEq] at hleaf
      obtain ⟨rfl, rfl⟩ := hleaf
      simp [Leaf.Shows]
    | _ => simp_all [Leaf.toLine, Line.essence?]

/-! ### Blocks keep the essences -/

theorem flatten_blocks (ls : List Line) :
    (blocks ls).flatten = ls.filter fun l => !(l == .blank) := by
  rw [blocks, List.flatten_filter_not_isEmpty, List.splitOn_eq_splitOnP, flatten_splitOnP]

theorem Trims.filterMap_essence? {kept trimmed : List Line} (h : Trims kept trimmed) :
    trimmed.filterMap Line.essence? = kept.filterMap Line.essence? := by
  cases h <;>
    simp only [List.filterMap_cons, List.filterMap_append, List.filterMap_nil,
      Line.essence?_trimStart, Line.essence?_trimEnd]

/-- Trimming the edges of a block keeps the essences of its lines. -/
private theorem filterMap_essence?_trimEdges (block : List Line) :
    (trimEdges block).filterMap Line.essence? = block.filterMap Line.essence? := by
  obtain ⟨front, back, hblock, hblank⟩ := exists_eq_append_keptLines block
  obtain ⟨hfront, hback⟩ := List.forall_mem_append.1 hblank
  have hnone {ls : List Line} (h : ∀ l ∈ ls, l.isBlankText = true) :
      ls.filterMap Line.essence? = [] :=
    List.filterMap_eq_nil_iff.2 fun l hl => Line.essence?_of_isBlankText (h l hl)
  calc (trimEdges block).filterMap Line.essence?
      = (keptLines block).filterMap Line.essence? := (trims_keptLines block).filterMap_essence?
    _ = (front ++ keptLines block ++ back).filterMap Line.essence? := by
        rw [List.filterMap_append, List.filterMap_append, hnone hfront, hnone hback,
          List.nil_append, List.append_nil]
    _ = block.filterMap Line.essence? := by rw [← hblock]

/-! ### Nodes keep the lines -/

/-- The leaf that shows a line; a blank line has none. -/
def Line.leaf? : Line → Option Leaf
  | blank => none
  | text t => some ⟨.line, inlines t⟩
  | heading title => some ⟨.heading, inlines title⟩
  | item marker t => some ⟨.item marker.listKind, inlines t⟩

/-- An element that is no stray item is shown line by line. -/
private theorem leaves_node? {e : Element} (h : e.itemText? = none) :
    Node.leavesOf e.node?.toList = e.expand.filterMap Line.leaf? := by
  cases e with
  | line l =>
    cases l with
    | item marker t => cases h
    | _ => rfl
  | list kind items =>
    have hleaf : Line.leaf? ∘ Line.item kind.marker =
        some ∘ fun t => ⟨.item kind, inlines t⟩ := by
      funext t
      simp [Line.leaf?]
    rw [Element.expand, List.filterMap_map, hleaf, List.filterMap_eq_map]
    simp [Element.node?, Node.leavesOf, Node.leaves]

/-- A paragraph around the nodes of a block makes no difference to their leaves. -/
private theorem leavesOf_enclose (elements : List Element) :
    Node.leavesOf (enclose elements) = Node.leavesOf (elements.filterMap Element.node?) := by
  unfold enclose
  split
  · next hnil => rw [hnil]
  · next first rest heq =>
    rw [heq]
    split
    · rfl
    · simp [Node.leavesOf, Node.leaves]

/-- **The leaves of a block are those of the lines of the trimmed block.** -/
theorem leavesOf_blockNodes (block : List Line) :
    Node.leavesOf (blockNodes block) = (trimEdges block).filterMap Line.leaf? := by
  -- A stray item would be shown as a line, so it matters that the passes leave none.
  have hnodes : ∀ elements : List Element, (∀ e ∈ elements, e.itemText? = none) →
      Node.leavesOf (elements.filterMap Element.node?) =
        (elements.flatMap Element.expand).filterMap Line.leaf? := by
    intro elements hnone
    induction elements with
    | nil => rfl
    | cons e elements ih =>
      have hcons : (e :: elements).filterMap Element.node? =
          e.node?.toList ++ elements.filterMap Element.node? := by
        cases h : e.node? <;> simp [h]
      rw [hcons, Node.leavesOf_append, List.flatMap_cons, List.filterMap_append,
        leaves_node? (hnone e List.mem_cons_self),
        ih fun e' he' => hnone e' (List.mem_cons_of_mem e he')]
  rw [blockNodes, leavesOf_enclose, hnodes _ fun e he => itemText?_of_mem_gatherRemaining he,
    flatMap_expand_gatherRemaining]

/-- A leaf spells out the line that it shows. -/
theorem Line.map_toLine_leaf? (l : Line) :
    l.leaf?.map Leaf.toLine = if l = .blank then none else some l := by
  cases l with
  | item marker t =>
    have hmarker : marker.listKind.marker = marker := by cases marker <;> rfl
    simp [leaf?, Leaf.toLine, spell_inlines, hmarker]
  | _ => simp [leaf?, Leaf.toLine, spell_inlines]

/-- The leaves of a block show the lines of the trimmed block. -/
theorem map_toLine_leaves_blockNodes (block : List Line) :
    (Node.leavesOf (blockNodes block)).map Leaf.toLine =
      (trimEdges block).filter fun l => !(l == .blank) := by
  rw [leavesOf_blockNodes, List.map_filterMap, ← List.filterMap_eq_filter]
  refine List.filterMap_congr fun l _ => ?_
  rw [Line.map_toLine_leaf?]
  by_cases h : l = .blank <;> simp [Option.guard, h]

/-- Pruning takes away nodes without leaves. -/
theorem leavesOf_prune (nodes : List Node) : Node.leavesOf (prune nodes) = Node.leavesOf nodes := by
  induction nodes with
  | nil => rfl
  | cons node nodes ih =>
    rw [prune, List.filter_cons]
    split
    · rw [Node.leavesOf, Node.leavesOf, ← ih, prune]
    · next h =>
      have hempty : node.leaves = [] := by
        unfold Node.isEmptyParagraph at h
        split at h
        · rfl
        · simp at h
      rw [← prune, ih, Node.leavesOf, hempty, List.nil_append]

/-! ### The whole way -/

private theorem filterMap_essence?_filter_ne_blank (ls : List Line) :
    (ls.filter fun l => !(l == .blank)).filterMap Line.essence? = ls.filterMap Line.essence? := by
  induction ls with
  | nil => rfl
  | cons l ls ih => cases l <;> simp [List.filterMap_cons, ih, Line.essence?]

/-- The leaves of a display tree have the essences of the lines of its source. -/
theorem filterMap_essence?_leaves_displayTree (source : Text) :
    (Node.leavesOf (displayTree source)).filterMap (fun leaf => leaf.toLine.essence?) =
      (lines source).filterMap fun t => (Line.classOf t).essence? := by
  -- Within a block the way from leaves to lines is an equation; the edges only agree in essence.
  have hblocks : ∀ bs : List (List Line),
      (Node.leavesOf (bs.flatMap blockNodes)).filterMap (fun leaf => leaf.toLine.essence?) =
        bs.flatten.filterMap Line.essence? := by
    intro bs
    induction bs with
    | nil => rfl
    | cons b bs ih =>
      have hmap : (Node.leavesOf (blockNodes b)).filterMap (fun leaf => leaf.toLine.essence?) =
          ((Node.leavesOf (blockNodes b)).map Leaf.toLine).filterMap Line.essence? := by
        rw [List.filterMap_map]
        rfl
      rw [List.flatMap_cons, Node.leavesOf_append, List.filterMap_append, ih, hmap,
        map_toLine_leaves_blockNodes, filterMap_essence?_filter_ne_blank,
        filterMap_essence?_trimEdges, List.flatten_cons, List.filterMap_append]
  rw [displayTree, leavesOf_prune, hblocks, blocks_classify, flatten_blocks,
    filterMap_essence?_filter_ne_blank, List.filterMap_map]
  rfl

/-- Two lists that have the same images, where they have any, correspond one by one. -/
private theorem forall₂_of_filterMap_eq {α β γ : Type} {f : α → Option γ} {g : β → Option γ}
    {as : List α} {bs : List β} (h : as.filterMap f = bs.filterMap g) :
    List.Forall₂ (fun a b => ∃ c, f a = some c ∧ g b = some c)
      (as.filter fun a => (f a).isSome) (bs.filter fun b => (g b).isSome) := by
  induction as generalizing bs with
  | nil =>
    have hnone : ∀ b ∈ bs, g b = none := List.filterMap_eq_nil_iff.1 h.symm
    rw [List.filter_nil, List.filter_eq_nil_iff.2 fun b hb => by simp [hnone b hb]]
    exact List.Forall₂.nil
  | cons a as ih =>
    cases hfa : f a with
    | none =>
      rw [List.filterMap_cons_none hfa] at h
      rw [List.filter_cons_of_neg (by simp [hfa])]
      exact ih h
    | some c =>
      -- The image of `a` is that of the first element of `bs` that has one.
      rw [List.filterMap_cons_some hfa] at h
      obtain ⟨skipped, b, rest, rfl, hnone, hgb, hrest⟩ := List.filterMap_eq_cons_iff.1 h.symm
      have hskipped : skipped.filter (fun b => (g b).isSome) = [] :=
        List.filter_eq_nil_iff.2 fun b' hb' => by simp [hnone b' hb']
      rw [List.filter_append, hskipped, List.nil_append, List.filter_cons_of_pos (by simp [hfa]),
        List.filter_cons_of_pos (by simp [hgb])]
      exact List.Forall₂.cons ⟨c, hfa, hgb⟩ (ih hrest.symm)

/-- **No line is dropped, duplicated or moved.** The leaves of a display tree that are not lines of
white space correspond one by one to the lines of the source that are not white space, in the same
order. Each leaf shows its line, as the class of the line wants it. -/
theorem forall₂_shows_leaves_displayTree (source : Text) :
    List.Forall₂ (fun (leaf : Leaf) (t : Text) => leaf.Shows (Line.classOf t))
      ((Node.leavesOf (displayTree source)).filter fun leaf => !leaf.isBlankLine)
      ((lines source).filter fun t => !allBlank t) := by
  -- Having an essence is what the two filters ask for.
  have hleaf : ∀ leaf : Leaf, leaf.toLine.essence?.isSome = !leaf.isBlankLine := by
    rintro ⟨kind, content⟩
    cases kind with
    | line =>
      simp only [Leaf.toLine, Line.essence?, Leaf.isBlankLine, Line.isBlankText]
      split <;> simp_all
    | _ => rfl
  have h := forall₂_of_filterMap_eq (filterMap_essence?_leaves_displayTree source)
  simp only [hleaf, Line.isSome_essence?_classOf] at h
  exact h.imp fun leaf t ⟨e, he, he'⟩ => Leaf.shows_of_essence?_eq he he'

end ServiceCharter.Markup

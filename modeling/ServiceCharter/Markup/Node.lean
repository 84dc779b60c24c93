import ServiceCharter.Markup.Inline

/-!
# Display trees

A document is shown as a list of nodes. What is read from a source has paragraphs at the top level
only, but a tree may nest them to any depth.
-/

namespace ServiceCharter.Markup

/-- The kind of a list. -/
inductive ListKind where
  | unordered
  | ordered
deriving DecidableEq, Repr

/-- A node of a display tree. -/
inductive Node where
  /-- A heading of the second level. -/
  | heading (content : List Inline)
  /-- A line of text inside a block. -/
  | line (content : List Inline)
  /-- The elements of one block. -/
  | paragraph (children : List Node)
  /-- A list, by the contents of its items. -/
  | list (kind : ListKind) (items : List (List Inline))
deriving Repr

namespace Node

/-- Induction over a node: a paragraph by way of its children. -/
protected theorem induction {motive : Node → Prop} (heading : ∀ content, motive (.heading content))
    (line : ∀ content, motive (.line content))
    (paragraph : ∀ children, (∀ child ∈ children, motive child) → motive (.paragraph children))
    (list : ∀ kind items, motive (.list kind items)) (node : Node) : motive node :=
  @Node.rec motive (fun nodes => ∀ child ∈ nodes, motive child) heading line paragraph list
    (fun _ h => nomatch h)
    (fun _ _ hnode hnodes => List.forall_mem_cons.2 ⟨hnode, hnodes⟩) node

/-- Whether a block that begins with the node stands without a paragraph around it. -/
def standsAlone : Node → Bool
  | heading _ => true
  | list _ _ => true
  | _ => false

/-- Whether the node is a paragraph without children. -/
def isEmptyParagraph : Node → Bool
  | paragraph [] => true
  | _ => false

end Node

end ServiceCharter.Markup

import ServiceCharter.Markup.Line
import ServiceCharter.Markup.Node

/-!
# Blocks

Blank lines divide the lines of a document into blocks. Within a block, runs of adjacent items
become lists in two passes: the first gathers bullet items, the second whatever items are left. A
run that the first pass gathered is a list and no item, so no run is gathered twice.

`displayTree` is the whole way from a source to its display tree.
-/

namespace ServiceCharter.Markup

/-- The blocks of a list of lines: what stands between blank lines. No block is empty. -/
def blocks (lines : List Line) : List (List Line) :=
  (lines.splitOn .blank).filter fun block => !block.isEmpty

/-! ### Trimming -/

/-- The line without white space at its start, if it is text. -/
def Line.trimStart : Line → Line
  | text t => text (Text.trimStart t)
  | line => line

/-- The line without white space at its end, if it is text. -/
def Line.trimEnd : Line → Line
  | text t => text (Text.trimEnd t)
  | line => line

/-- The block with its last line trimmed at the end. -/
def trimLastLine : List Line → List Line
  | [] => []
  | [line] => [line.trimEnd]
  | line :: next :: block => line :: trimLastLine (next :: block)

/-- The block without text lines of white space at its two ends, and without white space at the
start of its first line and at the end of its last, as far as they are text. -/
def trimEdges (block : List Line) : List Line :=
  let kept := block.dropWhile Line.isBlankText
  let kept := (kept.reverse.dropWhile Line.isBlankText).reverse
  trimLastLine (kept.modifyHead Line.trimStart)

/-! ### Grouping -/

/-- An element of a block: a line, or a list made of a run of items. -/
inductive Element where
  | line (line : Line)
  | list (kind : ListKind) (items : List Text)
deriving DecidableEq, Repr

/-- The elements after a run of items: the run comes first as a list, unless it is empty. -/
def closeRun (kind : ListKind) (run : List Text) (elements : List Element) : List Element :=
  if run.isEmpty then elements else .list kind run :: elements

section Gather

variable {α : Type} (kind : ListKind) (item? : α → Option Text) (keep : α → Element)

/-- The elements of a list in which maximal runs of items are gathered; `run` holds the items that
stand directly before the list. -/
def gather (run : List Text) : List α → List Element
  | [] => closeRun kind run []
  | a :: l =>
    match item? a with
    | some t => gather (run ++ [t]) l
    | none => closeRun kind run (keep a :: gather [] l)

end Gather

/-- The text of a bullet item. -/
def Line.bulletText? : Line → Option Text
  | item .bullet t => some t
  | _ => none

/-- The text of an item that no list has taken yet. -/
def Element.itemText? : Element → Option Text
  | line (.item _ t) => some t
  | _ => none

/-- The first pass: runs of bullet items become unordered lists. -/
def gatherBullets (block : List Line) : List Element :=
  gather .unordered Line.bulletText? .line [] block

/-- The second pass: runs of the remaining items become ordered lists. -/
def gatherRemaining (elements : List Element) : List Element :=
  gather .ordered Element.itemText? id [] elements

/-! ### Nodes -/

/-- The node that shows an element; a blank line shows nothing. -/
def Element.node? : Element → Option Node
  | list kind items => some (.list kind (items.map inlines))
  | line (.heading title) => some (.heading (inlines title))
  | line (.text t) => some (.line (inlines t))
  | line (.item _ t) => some (.line (inlines t))
  | line .blank => none

/-- The nodes of a block, in a paragraph unless the first of them is a heading or a list. -/
def enclose (elements : List Element) : List Node :=
  match elements.filterMap Element.node? with
  | [] => []
  | first :: rest => if first.standsAlone then first :: rest else [.paragraph (first :: rest)]

/-- The nodes without paragraphs that have no children. -/
def prune (nodes : List Node) : List Node :=
  nodes.filter fun node => !node.isEmptyParagraph

/-- The nodes that show one block. -/
def blockNodes (block : List Line) : List Node :=
  enclose (gatherRemaining (gatherBullets (trimEdges block)))

/-- The display tree of a source. -/
def displayTree (source : Text) : List Node :=
  prune ((blocks (classify source)).flatMap blockNodes)

end ServiceCharter.Markup

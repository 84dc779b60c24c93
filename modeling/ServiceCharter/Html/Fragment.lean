import ServiceCharter.Html.Token
import ServiceCharter.Markup.Node

/-!
# HTML fragments

The HTML of a display tree. Siblings at the top level, in a paragraph and in a list have a line feed
between them; a line is written without an element around it.
-/

namespace ServiceCharter.Html

open Markup

/-- The tokens of the pieces with a line feed between neighbours. -/
def separate : List (List Token) → List Token
  | [] => []
  | [ts] => ts
  | ts :: us :: rest => ts ++ .text ['\n'] :: separate (us :: rest)

/-- The tokens inside an element, with its tags around them. -/
def element (tag : Tag) (content : List Token) : List Token :=
  .opening tag :: content ++ [.closing tag]

/-- The tokens of a piece of a line. -/
def inlineTokens : Inline → List Token
  | .text t => [.text t]
  | .bold t => element .strong [.text t]

/-- The tokens of a line. -/
def contentTokens (content : List Inline) : List Token := content.flatMap inlineTokens

/-- The element of a list. -/
def listTag : ListKind → Tag
  | .unordered => .ul
  | .ordered => .ol

mutual

/-- The tokens of a node. -/
def nodeTokens : Node → List Token
  | .heading content => element .h2 (contentTokens content)
  | .line content => contentTokens content
  | .paragraph children => element .p (separate (childTokens children))
  | .list kind items =>
    element (listTag kind) (separate (items.map fun item => element .li (contentTokens item)))

/-- The tokens of each node of a list. -/
def childTokens : List Node → List (List Token)
  | [] => []
  | node :: nodes => nodeTokens node :: childTokens nodes

end

/-- The tokens of a display tree. -/
def treeTokens (tree : List Node) : List Token := separate (childTokens tree)

/-- The HTML of a display tree. -/
def fragment (tree : List Node) : Text := print (treeTokens tree)

theorem childTokens_eq_map (nodes : List Node) : childTokens nodes = nodes.map nodeTokens := by
  induction nodes with
  | nil => rfl
  | cons node nodes ih => simp [childTokens, ih]

end ServiceCharter.Html

import ServiceCharter.Html.Fragment
import ServiceCharter.Proofs.Text.Pieces

/-!
# Reading generated HTML

`read?` reads HTML as a sequence of marks: the tags of the six elements, without attributes, and
characters, of which `<` and `>` are never read as themselves, and `&` only as the beginning of one
of four character references. Any other text is refused, so a text that is read is nothing but the
marks written one after the other (`read?_eq_some_iff`). `isNested` says of marks that every element
is closed in its turn, by a stack of the elements that are open.

Writing never fails, and what is printed can be read back (`read?_print`), whatever the texts hold,
so nothing in a text is ever taken for a tag. The HTML of any display tree is therefore a properly
nested sequence of tags and text, and its text is that of the tree (`read?_fragment`).
-/

namespace ServiceCharter

open Text Markup

namespace Html

/-! ### Marks -/

/-- What is read at one place of HTML: a tag, or a character as it is meant. -/
inductive Mark where
  | opening (tag : Tag)
  | closing (tag : Tag)
  | char (c : Char)
deriving DecidableEq, Repr

/-- The text of a mark. -/
def Mark.print : Mark → Text
  | opening tag => ['<'] ++ tag.name ++ ['>']
  | closing tag => ['<', '/'] ++ tag.name ++ ['>']
  | char c => escapeChar c

/-- The name of an element and the end of its tag, and what follows. -/
def readTag? : Text → Option (Tag × Text)
  | 'h' :: '2' :: '>' :: t => some (.h2, t)
  | 'p' :: '>' :: t => some (.p, t)
  | 'u' :: 'l' :: '>' :: t => some (.ul, t)
  | 'o' :: 'l' :: '>' :: t => some (.ol, t)
  | 'l' :: 'i' :: '>' :: t => some (.li, t)
  | 's' :: 't' :: 'r' :: 'o' :: 'n' :: 'g' :: '>' :: t => some (.strong, t)
  | _ => none

/-- A character reference without its ampersand, and what follows. -/
def readReference? : Text → Option (Char × Text)
  | 'a' :: 'm' :: 'p' :: ';' :: t => some ('&', t)
  | 'l' :: 't' :: ';' :: t => some ('<', t)
  | 'g' :: 't' :: ';' :: t => some ('>', t)
  | 'n' :: 'b' :: 's' :: 'p' :: ';' :: t => some ('\u00a0', t)
  | _ => none

/-- The first mark of a text, and what follows. -/
def readMark? : Text → Option (Mark × Text)
  | [] => none
  | '<' :: '/' :: t => (readTag? t).map fun (tag, rest) => (.closing tag, rest)
  | '<' :: t => (readTag? t).map fun (tag, rest) => (.opening tag, rest)
  | '>' :: _ => none
  | '&' :: t => (readReference? t).map fun (c, rest) => (.char c, rest)
  | '\u00a0' :: _ => none
  | c :: t => some (.char c, t)

private theorem eq_of_readTag? {t rest : Text} {tag : Tag} (h : readTag? t = some (tag, rest)) :
    t = tag.name ++ '>' :: rest := by
  unfold readTag? at h
  split at h <;> cases h <;> rfl

private theorem eq_of_readReference? {t rest : Text} {c : Char}
    (h : readReference? t = some (c, rest)) : '&' :: t = escapeChar c ++ rest := by
  unfold readReference? at h
  split at h <;> cases h <;> rfl

private theorem eq_of_readMark? {t rest : Text} {m : Mark} (h : readMark? t = some (m, rest)) :
    t = m.print ++ rest := by
  unfold readMark? at h
  split at h
  · cases h
  · obtain ⟨⟨tag, rest'⟩, htag, heq⟩ := Option.map_eq_some_iff.1 h
    cases heq
    simp [Mark.print, eq_of_readTag? htag]
  · obtain ⟨⟨tag, rest'⟩, htag, heq⟩ := Option.map_eq_some_iff.1 h
    cases heq
    simp [Mark.print, eq_of_readTag? htag]
  · cases h
  · obtain ⟨⟨c, rest'⟩, href, heq⟩ := Option.map_eq_some_iff.1 h
    cases heq
    exact eq_of_readReference? href
  · cases h
  · next c t _ hlt hgt hamp hspace =>
    cases h
    have hplain : escapeChar c = [c] := by
      rw [escapeChar, if_neg hamp, if_neg hspace, if_neg hlt, if_neg hgt]
    rw [Mark.print, hplain]
    rfl

theorem Mark.print_ne_nil (m : Mark) : m.print ≠ [] := by
  cases m with
  | char c =>
    rw [print, escapeChar]
    split_ifs <;> simp
  | _ => simp [print]

private theorem length_of_readMark? {t rest : Text} {m : Mark} (h : readMark? t = some (m, rest)) :
    rest.length < t.length := by
  have hpos : 0 < m.print.length := List.length_pos_iff.2 m.print_ne_nil
  rw [eq_of_readMark? h, List.length_append]
  omega

/-- The marks of a text, if it is nothing but tags and characters. -/
def read? (t : Text) : Option (List Mark) :=
  match h : readMark? t with
  | none => if t.isEmpty then some [] else none
  | some (m, rest) =>
    have := length_of_readMark? h
    (read? rest).map (m :: ·)
termination_by t.length

/-- A mark is the first that is read where it is written, whatever follows. -/
theorem readMark?_print_append (m : Mark) (rest : Text) :
    readMark? (m.print ++ rest) = some (m, rest) := by
  cases m with
  | opening tag => cases tag <;> rfl
  | closing tag => cases tag <;> rfl
  | char c =>
    rw [Mark.print, escapeChar]
    split_ifs with hamp hspace hlt hgt
    · subst hamp; rfl
    · subst hspace; rfl
    · subst hlt; rfl
    · subst hgt; rfl
    · -- No other character begins a tag or a reference.
      rw [List.singleton_append, readMark?]
      · exact fun _ h _ => hlt h
      · exact hlt
      · exact hgt
      · exact hamp
      · exact hspace

/-- **A text is read as some marks exactly if it is what they are written as.** -/
theorem read?_eq_some_iff {t : Text} {ms : List Mark} :
    read? t = some ms ↔ t = ms.flatMap Mark.print := by
  constructor
  · intro h
    induction hn : t.length using Nat.strongRecOn generalizing t ms with
    | ind n ih =>
      subst hn
      rw [read?] at h
      split at h
      · split at h
        · next hnil =>
          cases h
          exact List.isEmpty_iff.1 hnil
        · cases h
      · next m rest hmark =>
        obtain ⟨ms, hms, rfl⟩ := Option.map_eq_some_iff.1 h
        have hrest := ih rest.length (length_of_readMark? hmark) hms rfl
        rw [eq_of_readMark? hmark, hrest, List.flatMap_cons]
  · rintro rfl
    induction ms with
    | nil =>
      rw [read?]
      rfl
    | cons m ms ih =>
      rw [List.flatMap_cons, read?]
      split
      · next hnone =>
        rw [readMark?_print_append] at hnone
        cases hnone
      · next m' rest' hsome =>
        rw [readMark?_print_append] at hsome
        cases hsome
        rw [ih]
        rfl

/-- Whether every element that the marks open is closed in its turn; `opened` holds the elements
that are open before, the innermost first. -/
def isNested : (opened : List Tag) → List Mark → Bool
  | opened, [] => opened.isEmpty
  | opened, .opening tag :: ms => isNested (tag :: opened) ms
  | [], .closing _ :: _ => false
  | tag' :: opened, .closing tag :: ms => tag' == tag && isNested opened ms
  | opened, .char _ :: ms => isNested opened ms

/-- The text of the marks: tags go, and characters are taken as they are meant. -/
def chars (ms : List Mark) : Text :=
  ms.filterMap fun
    | .char c => some c
    | _ => none

/-! ### Reading what is printed -/

/-- The marks of a token. -/
def Token.marks : Token → List Mark
  | opening tag => [.opening tag]
  | closing tag => [.closing tag]
  | text t => t.map .char

/-- The marks of a sequence of tokens. -/
def marks (ts : List Token) : List Mark := ts.flatMap Token.marks

@[simp] theorem marks_append (ts us : List Token) : marks (ts ++ us) = marks ts ++ marks us :=
  List.flatMap_append

theorem marks_text (t : Text) : marks [.text t] = t.map .char := List.flatMap_singleton _ _

theorem marks_element (tag : Tag) (ts : List Token) :
    marks (element tag ts) = .opening tag :: (marks ts ++ [.closing tag]) := by
  simp [element, marks, Token.marks]

theorem marks_separate_cons (ts : List Token) {pieces : List (List Token)} (h : pieces ≠ []) :
    marks (separate (ts :: pieces)) = marks ts ++ .char '\n' :: marks (separate pieces) := by
  obtain ⟨us, pieces, rfl⟩ := List.exists_cons_of_ne_nil h
  rw [separate, marks_append]
  rfl

theorem marks_contentTokens_cons (inline : Inline) (content : List Inline) :
    marks (contentTokens (inline :: content)) =
      marks (inlineTokens inline) ++ marks (contentTokens content) := by
  rw [← marks_append]
  rfl

/-- Tokens are written as their marks are. -/
theorem flatMap_print_marks (ts : List Token) : (marks ts).flatMap Mark.print = print ts := by
  have htoken : ∀ tk : Token, tk.marks.flatMap Mark.print = tk.print := by
    intro tk
    cases tk with
    | text t => exact List.flatMap_map _ _ t
    | _ => exact List.append_nil _
  rw [marks, List.flatMap_assoc]
  exact List.flatMap_congr fun tk _ => htoken tk

/-- **What is printed can be read back.** -/
theorem read?_print (ts : List Token) : read? (print ts) = some (marks ts) :=
  read?_eq_some_iff.2 (flatMap_print_marks ts).symm

/-! ### Nesting -/

/-- Marks that leave the open elements as they are. -/
def Balanced (ms : List Mark) : Prop :=
  ∀ opened rest, isNested opened (ms ++ rest) = isNested opened rest

theorem Balanced.isNested {ms : List Mark} (h : Balanced ms) : isNested [] ms = true := by
  have hnil := h [] []
  rw [List.append_nil] at hnil
  exact hnil

theorem balanced_nil : Balanced [] := fun _ _ => rfl

theorem Balanced.append {ms ms' : List Mark} (h : Balanced ms) (h' : Balanced ms') :
    Balanced (ms ++ ms') := by
  intro opened rest
  rw [List.append_assoc, h, h']

private theorem balanced_map_char (t : Text) : Balanced (t.map .char) := by
  intro opened rest
  induction t with
  | nil => rfl
  | cons c t ih => exact ih

/-- An element is closed where it ends. -/
theorem balanced_marks_element (tag : Tag) {ts : List Token} (h : Balanced (marks ts)) :
    Balanced (marks (element tag ts)) := by
  intro opened rest
  rw [marks_element, List.cons_append, List.append_assoc, List.singleton_append, Html.isNested, h,
    Html.isNested, beq_self_eq_true, Bool.true_and]

private theorem balanced_marks_separate {pieces : List (List Token)}
    (h : ∀ ts ∈ pieces, Balanced (marks ts)) : Balanced (marks (separate pieces)) := by
  induction pieces with
  | nil => exact balanced_nil
  | cons ts pieces ih =>
    have hts := h ts List.mem_cons_self
    have hrest := ih fun us hus => h us (List.mem_cons_of_mem ts hus)
    rcases eq_or_ne pieces [] with rfl | hne
    · exact hts
    · rw [marks_separate_cons ts hne]
      exact hts.append ((balanced_map_char ['\n']).append hrest)

private theorem balanced_marks_contentTokens (content : List Inline) :
    Balanced (marks (contentTokens content)) := by
  induction content with
  | nil => exact balanced_nil
  | cons inline content ih =>
    have htext : ∀ t, Balanced (marks [.text t]) := fun t => by
      rw [marks_text]
      exact balanced_map_char t
    have hinline : Balanced (marks (inlineTokens inline)) := by
      cases inline with
      | text t => exact htext t
      | bold t => exact balanced_marks_element .strong (htext t)
    rw [marks_contentTokens_cons]
    exact hinline.append ih

/-- A node closes what it opens. -/
private theorem balanced_marks_nodeTokens (node : Node) : Balanced (marks (nodeTokens node)) := by
  induction node using Node.induction with
  | heading content =>
    rw [nodeTokens]
    exact balanced_marks_element .h2 (balanced_marks_contentTokens content)
  | line content =>
    rw [nodeTokens]
    exact balanced_marks_contentTokens content
  | paragraph children ih =>
    rw [nodeTokens, childTokens_eq_map]
    refine balanced_marks_element .p (balanced_marks_separate fun ts hts => ?_)
    obtain ⟨child, hchild, rfl⟩ := List.mem_map.1 hts
    exact ih child hchild
  | list kind items =>
    rw [nodeTokens]
    refine balanced_marks_element (listTag kind) (balanced_marks_separate fun ts hts => ?_)
    obtain ⟨item, -, rfl⟩ := List.mem_map.1 hts
    exact balanced_marks_element .li (balanced_marks_contentTokens item)

/-! ### The text of a tree -/

mutual

/-- The text of a node, with a line feed between the children of a paragraph and between the items
of a list. -/
def nodeText : Node → Text
  | .heading content => shown content
  | .line content => shown content
  | .paragraph children => ['\n'].intercalate (childTexts children)
  | .list _ items => ['\n'].intercalate (items.map shown)

/-- The text of each node of a list. -/
def childTexts : List Node → List Text
  | [] => []
  | node :: nodes => nodeText node :: childTexts nodes

end

/-- The text of a display tree, with a line feed between nodes. -/
def treeText (tree : List Node) : Text := ['\n'].intercalate (childTexts tree)

private theorem childTexts_eq_map (nodes : List Node) : childTexts nodes = nodes.map nodeText := by
  induction nodes with
  | nil => rfl
  | cons node nodes ih => rw [childTexts, ih, List.map_cons]

@[simp] theorem chars_append (ms ms' : List Mark) : chars (ms ++ ms') = chars ms ++ chars ms' :=
  List.filterMap_append

private theorem chars_map_char (t : Text) : chars (t.map .char) = t := by
  rw [chars, List.filterMap_map]
  exact List.filterMap_some

/-- Tags do not count as text. -/
theorem chars_marks_element (tag : Tag) (ts : List Token) :
    chars (marks (element tag ts)) = chars (marks ts) := by
  have hcons : chars (marks (element tag ts)) = chars (marks ts ++ [.closing tag]) := by
    rw [marks_element]
    rfl
  rw [hcons, chars_append]
  exact List.append_nil _

private theorem chars_marks_separate (pieces : List (List Token)) :
    chars (marks (separate pieces)) =
      ['\n'].intercalate (pieces.map fun ts => chars (marks ts)) := by
  induction pieces with
  | nil => rfl
  | cons ts pieces ih =>
    rcases eq_or_ne pieces [] with rfl | hne
    · rw [List.map_singleton, List.intercalate_singleton]
      rfl
    · have hcons : chars (marks (separate (ts :: pieces))) =
          chars (marks ts) ++ '\n' :: chars (marks (separate pieces)) := by
        rw [marks_separate_cons ts hne, chars_append]
        rfl
      rw [hcons, ih, List.map_cons, List.intercalate_cons_of_ne_nil (by simpa using hne),
        List.append_assoc]
      rfl

private theorem chars_marks_contentTokens (content : List Inline) :
    chars (marks (contentTokens content)) = shown content := by
  induction content with
  | nil => rfl
  | cons inline content ih =>
    have hinline : chars (marks (inlineTokens inline)) = inline.shown := by
      cases inline with
      | text t => rw [inlineTokens, marks_text, chars_map_char]; rfl
      | bold t => rw [inlineTokens, chars_marks_element, marks_text, chars_map_char]; rfl
    rw [marks_contentTokens_cons, chars_append, hinline, ih]
    rfl

private theorem chars_marks_nodeTokens (node : Node) : chars (marks (nodeTokens node)) =
    nodeText node := by
  induction node using Node.induction with
  | heading content =>
    rw [nodeTokens, nodeText, chars_marks_element, chars_marks_contentTokens]
  | line content => rw [nodeTokens, nodeText, chars_marks_contentTokens]
  | paragraph children ih =>
    have hchildren : (children.map nodeTokens).map (fun ts => chars (marks ts)) =
        childTexts children := by
      rw [List.map_map, childTexts_eq_map]
      exact List.map_congr_left ih
    rw [nodeTokens, nodeText, chars_marks_element, chars_marks_separate, childTokens_eq_map,
      hchildren]
  | list kind items =>
    have hitems : (items.map fun item => element .li (contentTokens item)).map
        (fun ts => chars (marks ts)) = items.map shown := by
      rw [List.map_map]
      refine List.map_congr_left fun item _ => ?_
      exact (chars_marks_element .li _).trans (chars_marks_contentTokens item)
    rw [nodeTokens, nodeText, chars_marks_element, chars_marks_separate, hitems]

/-- **No text breaks out of the HTML of a display tree.** The HTML is a sequence of tags and
characters, in which every element is closed in its turn; without the tags, and with every character
reference undone, it is the text of the tree. -/
theorem read?_fragment (tree : List Node) :
    ∃ ms, read? (fragment tree) = some ms ∧ isNested [] ms = true ∧ chars ms = treeText tree := by
  have hnested : Balanced (marks (treeTokens tree)) := by
    rw [treeTokens, childTokens_eq_map]
    refine balanced_marks_separate fun ts hts => ?_
    obtain ⟨node, -, rfl⟩ := List.mem_map.1 hts
    exact balanced_marks_nodeTokens node
  have hchars : chars (marks (treeTokens tree)) = treeText tree := by
    rw [treeTokens, chars_marks_separate, treeText, childTexts_eq_map, childTokens_eq_map,
      List.map_map]
    exact congrArg _ (List.map_congr_left fun node _ => chars_marks_nodeTokens node)
  exact ⟨marks (treeTokens tree), read?_print (treeTokens tree), hnested.isNested, hchars⟩

end Html

end ServiceCharter

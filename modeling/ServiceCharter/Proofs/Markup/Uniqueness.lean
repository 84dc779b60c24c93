import ServiceCharter.Proofs.Markup.Grouping

/-!
# The one way to group a block

Four things are asked of a grouping of a block: its elements expand to the lines of the block, no
item stands outside a list, no list is empty, and no two lists of one kind stand side by side, so
that no list could be longer. Every block has exactly one grouping, and the two passes compute it
(`isGrouping_iff_eq_gatherRemaining`).

What has the four properties is thus the answer of the passes. This is how reading the block once,
with each item gathered by its own marker (`groupByMarker`), is shown to come to the same: it is
enough that an item in front keeps the properties (`IsGrouping.consItem`). The first pass claims the
bullet items; the second leaves their lists where they stand, and what is in front of such a list
does not meet what is behind it (`gatherRemaining_append_list_cons`).
-/

namespace ServiceCharter.Markup

/-- The elements are a grouping of the block, with runs of items that are as long as can be. -/
structure IsGrouping (block : List Line) (elements : List Element) : Prop where
  /-- The lists, written out, and the other lines are the block. -/
  expand_eq : elements.flatMap Element.expand = block
  /-- No item stands outside a list. -/
  itemText?_eq_none : ∀ e ∈ elements, e.itemText? = none
  /-- No list is empty. -/
  items_ne_nil : ∀ kind items, .list kind items ∈ elements → items ≠ []
  /-- No two lists of one kind stand side by side. -/
  apart : elements.IsChain Element.Apart

variable {block : List Line} {elements : List Element}

/-- An element is grouped if it is neither an item outside a list nor an empty list. -/
theorem Element.grouped_iff {e : Element} :
    e.Grouped ↔ e.itemText? = none ∧ ∀ kind items, e = .list kind items → items ≠ [] := by
  cases e with
  | list kind items => simp [Grouped, itemText?]
  | line l => cases l <;> simp [Grouped, itemText?]

theorem IsGrouping.grouped (h : IsGrouping block elements) : ∀ e ∈ elements, e.Grouped := by
  intro e he
  refine Element.grouped_iff.2 ⟨h.itemText?_eq_none e he, ?_⟩
  rintro kind items rfl
  exact h.items_ne_nil kind items he

/-- **The two passes compute the only grouping.** -/
theorem isGrouping_iff : IsGrouping block elements ↔
    elements = gatherRemaining (gatherBullets block) := by
  constructor
  · intro h
    rw [← h.expand_eq, gatherRemaining_flatMap_expand h.grouped h.apart]
  · rintro rfl
    refine ⟨flatMap_expand_gatherRemaining block, fun e => itemText?_of_mem_gatherRemaining, ?_,
      isChain_gatherRemaining block⟩
    intro kind items he
    exact (Element.grouped_iff.1 (grouped_of_mem_gatherRemaining he)).2 kind items rfl

/-! ### Grouping in a single pass -/

/-- The elements with an item in front of them. It joins the list that comes first, if that gathers
items with its marker; otherwise it begins a list of its own. -/
def consItem (marker : Marker) (t : Text) : List Element → List Element
  | .list kind items :: elements =>
    if kind = marker.listKind then .list kind (t :: items) :: elements
    else .list marker.listKind [t] :: .list kind items :: elements
  | elements => .list marker.listKind [t] :: elements

/-- A block, grouped in a single pass: each item goes by its own marker. -/
def groupByMarker : List Line → List Element
  | [] => []
  | .item marker t :: block => consItem marker t (groupByMarker block)
  | l :: block => .line l :: groupByMarker block

@[simp] theorem Marker.marker_listKind (marker : Marker) : marker.listKind.marker = marker := by
  cases marker <;> rfl

/-- A grouping goes on behind each of its elements. -/
theorem isGrouping_cons_iff {e : Element} :
    IsGrouping block (e :: elements) ↔ e.Grouped ∧ (∀ e' ∈ elements.head?, e.Apart e') ∧
      ∃ behind, block = e.expand ++ behind ∧ IsGrouping behind elements := by
  constructor
  · intro h
    obtain ⟨hhead, htail⟩ := List.isChain_cons.1 h.apart
    refine ⟨h.grouped e List.mem_cons_self, hhead, elements.flatMap Element.expand,
      h.expand_eq.symm, rfl, ?_, ?_, htail⟩
    · exact fun e' he' => h.itemText?_eq_none e' (List.mem_cons_of_mem e he')
    · exact fun kind items he' => h.items_ne_nil kind items (List.mem_cons_of_mem e he')
  · rintro ⟨hgrouped, hhead, behind, rfl, h⟩
    obtain ⟨hitem, hlist⟩ := Element.grouped_iff.1 hgrouped
    refine ⟨?_, List.forall_mem_cons.2 ⟨hitem, h.itemText?_eq_none⟩, fun kind items hmem => ?_,
      List.isChain_cons.2 ⟨hhead, h.apart⟩⟩
    · rw [List.flatMap_cons, h.expand_eq]
    · obtain heq | hmem := List.mem_cons.1 hmem
      · exact hlist kind items heq.symm
      · exact h.items_ne_nil kind items hmem

/-- An item in front joins the first list, or begins a list that stays apart from what it stands
before. -/
private theorem consItem_cases (marker : Marker) (t : Text) (elements : List Element) :
    (∃ items rest, elements = .list marker.listKind items :: rest ∧
      consItem marker t elements = .list marker.listKind (t :: items) :: rest) ∨
    (∀ e ∈ elements.head?, (Element.list marker.listKind [t]).Apart e) ∧
      consItem marker t elements = .list marker.listKind [t] :: elements := by
  cases elements with
  | nil => exact Or.inr ⟨by simp, rfl⟩
  | cons e rest =>
    cases e with
    | line l => exact Or.inr ⟨by simp [Element.Apart], rfl⟩
    | list kind items =>
      by_cases hkind : kind = marker.listKind
      · subst hkind
        exact Or.inl ⟨items, rest, rfl, if_pos rfl⟩
      · exact Or.inr ⟨by simpa [Element.Apart] using Ne.symm hkind, if_neg hkind⟩

/-- **An item in front of a grouping makes a grouping.** -/
theorem IsGrouping.consItem (h : IsGrouping block elements) (marker : Marker) (t : Text) :
    IsGrouping (.item marker t :: block) (consItem marker t elements) := by
  obtain ⟨items, rest, rfl, hcons⟩ | ⟨hfirst, hcons⟩ := consItem_cases marker t elements
  · -- Whether a list stays apart from what is behind it does not depend on its items.
    obtain ⟨-, hhead, behind, rfl, hrest⟩ := isGrouping_cons_iff.1 h
    rw [hcons]
    refine isGrouping_cons_iff.2 ⟨List.cons_ne_nil t items, ?_, behind, ?_, hrest⟩
    · intro e he
      have hother := hhead e he
      cases e <;> exact hother
    · simp [Element.expand]
  · rw [hcons]
    refine isGrouping_cons_iff.2 ⟨List.cons_ne_nil t [], hfirst, block, ?_, h⟩
    simp [Element.expand]

/-- A single pass computes a grouping. -/
theorem isGrouping_groupByMarker (block : List Line) : IsGrouping block (groupByMarker block) := by
  induction block with
  | nil => exact isGrouping_iff.2 rfl
  | cons l block ih =>
    cases l with
    | item marker t => exact ih.consItem marker t
    | _ => exact isGrouping_cons_iff.2 ⟨trivial, fun _ _ => trivial, block, rfl, ih⟩

/-! ### What the second pass leaves alone -/

section Gather

variable {α : Type} {kind : ListKind} {item? : α → Option Text} {keep : α → Element}

private theorem closeRun_append (run : List Text) (front behind : List Element) :
    closeRun kind run (front ++ behind) = closeRun kind run front ++ behind := by
  unfold closeRun
  split <;> rfl

/-- Runs end at what is no item, so a pass goes on behind it as from the start. -/
private theorem gather_append_cons {a : α} (ha : item? a = none) (run : List Text)
    (front behind : List α) : gather kind item? keep run (front ++ a :: behind) =
      gather kind item? keep run front ++ keep a :: gather kind item? keep [] behind := by
  induction front generalizing run with
  | nil =>
    simp only [List.nil_append, gather, ha]
    rw [← closeRun_append, List.nil_append]
  | cons b front ih =>
    simp only [List.cons_append, gather]
    split
    · exact ih _
    · rw [ih, ← List.cons_append, closeRun_append]

end Gather

/-- **A list stays where it stands in the second pass**, and runs do not reach over it. -/
theorem gatherRemaining_append_list_cons (front : List Element) (kind : ListKind)
    (items : List Text) (behind : List Element) :
    gatherRemaining (front ++ .list kind items :: behind) =
      gatherRemaining front ++ .list kind items :: gatherRemaining behind :=
  gather_append_cons rfl [] front behind

/-! ### The grouping of a block -/

/-- **The two passes compute the unique maximal grouping.** Of all lists of elements, their answer
is the only one that expands to the block, leaves no item outside a list, has no empty list and no
two lists of one kind side by side. It is what a single pass by marker makes of the block, and each
list that the first pass answers stands in it as it is, between what the second pass makes of the
elements on its two sides. -/
theorem isGrouping_iff_eq_gatherRemaining (block : List Line) :
    (∀ elements, IsGrouping block elements ↔ elements = gatherRemaining (gatherBullets block)) ∧
    groupByMarker block = gatherRemaining (gatherBullets block) ∧
    ∀ front kind items behind, gatherBullets block = front ++ .list kind items :: behind →
      gatherRemaining (gatherBullets block) =
        gatherRemaining front ++ .list kind items :: gatherRemaining behind := by
  refine ⟨fun _ => isGrouping_iff, isGrouping_iff.1 (isGrouping_groupByMarker block), ?_⟩
  intro front kind items behind hbullets
  rw [hbullets, gatherRemaining_append_list_cons]

end ServiceCharter.Markup

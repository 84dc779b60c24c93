import Mathlib.Data.List.Basic
import Mathlib.Data.List.Chain
import ServiceCharter.Markup.Block

/-!
# Grouping items into lists

The two passes that gather runs of items lose nothing: writing every list out again as the lines it
was made of gives the block back (`flatMap_expand_gatherRemaining`). After the second pass no item
is left outside a list (`itemText?_of_mem_gatherRemaining`).

Both facts come from the general pass `gather`: what it answers is a list made of a non-empty run,
or an element it kept (`mem_gather`), and its expansion is that of its input
(`flatMap_expand_gather`).

The other way round, elements that are grouped already, with no two lists of one kind side by side,
are what the passes make of their lines (`gatherRemaining_flatMap_expand`).
-/

namespace ServiceCharter.Markup

/-- The marker of the items that are gathered in a list. -/
def ListKind.marker : ListKind → Marker
  | unordered => .bullet
  | ordered => .numbered

/-- The kind of list in which items with the marker are gathered. -/
def Marker.listKind : Marker → ListKind
  | bullet => .unordered
  | numbered => .ordered

@[simp] theorem ListKind.listKind_marker (kind : ListKind) : kind.marker.listKind = kind := by
  cases kind <;> rfl

/-- The lines that an element was made of. -/
def Element.expand : Element → List Line
  | line l => [l]
  | list kind items => items.map (.item kind.marker)

/-! ### One pass -/

section Gather

variable {α : Type} {kind : ListKind} {item? : α → Option Text} {keep : α → Element}

private theorem mem_closeRun {run : List Text} {elements : List Element} {e : Element} :
    e ∈ closeRun kind run elements ↔ (run ≠ [] ∧ e = .list kind run) ∨ e ∈ elements := by
  unfold closeRun
  split
  · next h => simp [List.isEmpty_iff.1 h]
  · next h =>
    have hne : run ≠ [] := fun hnil => h (List.isEmpty_iff.2 hnil)
    simp [hne]

private theorem flatMap_expand_closeRun (run : List Text) (elements : List Element) :
    (closeRun kind run elements).flatMap Element.expand =
      run.map (.item kind.marker) ++ elements.flatMap Element.expand := by
  unfold closeRun
  split
  · next h => simp [List.isEmpty_iff.1 h]
  · rfl

/-- A pass answers lists made of runs, and elements that it kept. -/
theorem mem_gather {run : List Text} {l : List α} {e : Element}
    (h : e ∈ gather kind item? keep run l) :
    (∃ items, items ≠ [] ∧ e = .list kind items) ∨ ∃ a ∈ l, item? a = none ∧ e = keep a := by
  induction l generalizing run with
  | nil =>
    rcases mem_closeRun.1 h with ⟨hne, rfl⟩ | hmem
    · exact Or.inl ⟨run, hne, rfl⟩
    · exact absurd hmem List.not_mem_nil
  | cons a l ih =>
    simp only [gather] at h
    split at h
    · next t ht =>
      rcases ih h with hlist | ⟨b, hb, hitem, rfl⟩
      · exact Or.inl hlist
      · exact Or.inr ⟨b, List.mem_cons_of_mem a hb, hitem, rfl⟩
    · next hnone =>
      rcases mem_closeRun.1 h with ⟨hne, rfl⟩ | hmem
      · exact Or.inl ⟨run, hne, rfl⟩
      rcases List.mem_cons.1 hmem with rfl | hmem
      · exact Or.inr ⟨a, List.mem_cons_self, hnone, rfl⟩
      rcases ih hmem with hlist | ⟨b, hb, hitem, rfl⟩
      · exact Or.inl hlist
      · exact Or.inr ⟨b, List.mem_cons_of_mem a hb, hitem, rfl⟩

/-- **A pass loses nothing.** If `source` says what each element of the input stands for, and
agrees with the two things that the pass may do with an element, then the answer expands to what the
input stands for. The run that precedes the input comes first. -/
theorem flatMap_expand_gather (source : α → List Line) {l : List α}
    (hitem : ∀ a ∈ l, ∀ t, item? a = some t → source a = [.item kind.marker t])
    (hkeep : ∀ a ∈ l, item? a = none → (keep a).expand = source a) (run : List Text) :
    (gather kind item? keep run l).flatMap Element.expand =
      run.map (.item kind.marker) ++ l.flatMap source := by
  -- The run is what the pass has taken and not yet answered.
  induction l generalizing run with
  | nil => exact flatMap_expand_closeRun run []
  | cons a l ih =>
    have ih' := ih (fun b hb => hitem b (List.mem_cons_of_mem a hb))
      fun b hb => hkeep b (List.mem_cons_of_mem a hb)
    simp only [gather]
    split
    · next t ht =>
      rw [ih', List.flatMap_cons, hitem a List.mem_cons_self t ht, List.map_append]
      simp
    · next hnone =>
      rw [flatMap_expand_closeRun, List.flatMap_cons, ih',
        hkeep a List.mem_cons_self hnone, List.flatMap_cons]
      rfl

end Gather

/-! ### The two passes -/

theorem Line.bulletText?_eq_some_iff {l : Line} {t : Text} :
    l.bulletText? = some t ↔ l = .item .bullet t := by
  unfold Line.bulletText?
  split <;> simp_all

theorem Element.itemText?_eq_some_iff {e : Element} {t : Text} :
    e.itemText? = some t ↔ ∃ marker, e = .line (.item marker t) := by
  unfold Element.itemText?
  split <;> simp_all

/-- The first pass loses nothing. -/
theorem flatMap_expand_gatherBullets (block : List Line) :
    (gatherBullets block).flatMap Element.expand = block := by
  have hitem : ∀ l ∈ block, ∀ t, l.bulletText? = some t →
      [l] = [.item ListKind.unordered.marker t] := by
    intro l _ t ht
    rw [Line.bulletText?_eq_some_iff.1 ht]
    rfl
  have hkeep : ∀ l ∈ block, l.bulletText? = none → (Element.line l).expand = [l] :=
    fun _ _ _ => rfl
  rw [gatherBullets, flatMap_expand_gather (fun l => [l]) hitem hkeep]
  simp

/-- The items that the first pass leaves are numbered. -/
private theorem eq_numbered_of_mem_gatherBullets {block : List Line} {e : Element} {t : Text}
    (he : e ∈ gatherBullets block) (ht : e.itemText? = some t) :
    e = .line (.item .numbered t) := by
  obtain ⟨marker, rfl⟩ := Element.itemText?_eq_some_iff.1 ht
  rcases mem_gather he with ⟨items, -, heq⟩ | ⟨l, -, hl, heq⟩
  · cases heq
  · obtain rfl : l = .item marker t := by simpa using heq.symm
    cases marker with
    | bullet => simp [Line.bulletText?] at hl
    | numbered => rfl

/-- **Both passes lose nothing.** -/
theorem flatMap_expand_gatherRemaining (block : List Line) :
    (gatherRemaining (gatherBullets block)).flatMap Element.expand = block := by
  have hitem : ∀ e ∈ gatherBullets block, ∀ t, e.itemText? = some t →
      e.expand = [.item ListKind.ordered.marker t] := by
    intro e he t ht
    rw [eq_numbered_of_mem_gatherBullets he ht]
    rfl
  have hkeep : ∀ e ∈ gatherBullets block, e.itemText? = none → (id e).expand = e.expand :=
    fun _ _ _ => rfl
  rw [gatherRemaining, flatMap_expand_gather Element.expand hitem hkeep,
    flatMap_expand_gatherBullets]
  rfl

/-- After the second pass no item is left outside a list. -/
theorem itemText?_of_mem_gatherRemaining {elements : List Element} {e : Element}
    (h : e ∈ gatherRemaining elements) : e.itemText? = none := by
  rcases mem_gather h with ⟨items, -, rfl⟩ | ⟨e', -, hnone, rfl⟩
  · rfl
  · exact hnone

/-! ### Grouped elements -/

/-- An element as grouping leaves it: a line that is no item, or a list with items. -/
def Element.Grouped : Element → Prop
  | line (.item _ _) => False
  | line _ => True
  | list _ items => items ≠ []

/-- Two elements that grouping may leave side by side: anything but two lists of one kind. -/
def Element.Apart : Element → Element → Prop
  | list kind _, list kind' _ => kind ≠ kind'
  | _, _ => True

section Gather

variable {α : Type} {kind : ListKind} {item? : α → Option Text} {keep : α → Element}

/-- A pass adds items to the run. -/
private theorem gather_map_append {f : Text → α} (hf : ∀ t, item? (f t) = some t)
    (run items : List Text) (l : List α) :
    gather kind item? keep run (items.map f ++ l) = gather kind item? keep (run ++ items) l := by
  induction items generalizing run with
  | nil => simp
  | cons t items ih =>
    rw [List.map_cons, List.cons_append, gather, hf]
    simp only [ih, List.append_assoc, List.singleton_append]

/-- A run ends where something other than an item follows. -/
private theorem gather_of_head? (run : List Text) {l : List α} (h : ∀ a ∈ l.head?, item? a = none) :
    gather kind item? keep run l = closeRun kind run (gather kind item? keep [] l) := by
  cases l with
  | nil => rfl
  | cons a l =>
    have ha : item? a = none := h a rfl
    simp only [gather, ha]
    rfl

/-- A pass keeps what is no item. -/
private theorem gather_append_of_none {kept : List α} (h : ∀ a ∈ kept, item? a = none)
    (l : List α) :
    gather kind item? keep [] (kept ++ l) = kept.map keep ++ gather kind item? keep [] l := by
  induction kept with
  | nil => rfl
  | cons a kept ih =>
    have ha : item? a = none := h a List.mem_cons_self
    rw [List.cons_append, gather, ha]
    simp only [ih fun b hb => h b (List.mem_cons_of_mem a hb)]
    rfl

private theorem head?_closeRun {run : List Text} (hrun : run ≠ []) (elements : List Element) :
    (closeRun kind run elements).head? = some (.list kind run) := by
  rw [closeRun, if_neg (by simpa using hrun)]
  rfl

/-- A run that has begun comes first in the answer. -/
private theorem head?_gather_of_ne_nil {run : List Text} (hrun : run ≠ []) (l : List α) :
    ∃ items, (gather kind item? keep run l).head? = some (.list kind items) := by
  induction l generalizing run with
  | nil => exact ⟨run, head?_closeRun hrun []⟩
  | cons a l ih =>
    simp only [gather]
    split
    · next t _ => exact ih (List.append_ne_nil_of_left_ne_nil hrun [t])
    · exact ⟨run, head?_closeRun hrun _⟩

/-- **A pass puts no two lists of its kind side by side.** What it keeps must be no list of that
kind, and what it keeps of neighbours may stand side by side. -/
theorem isChain_gather {l : List α}
    (hkeep : ∀ a ∈ l, item? a = none → ∀ items, keep a ≠ .list kind items)
    (hchain : l.IsChain fun a b => (keep a).Apart (keep b)) (run : List Text) :
    (gather kind item? keep run l).IsChain Element.Apart := by
  -- Only a list of the same kind must not stand beside a list.
  have hlist : ∀ {items : List Text} {e : Element}, (∀ items', e ≠ .list kind items') →
      e.Apart (.list kind items) ∧ (Element.list kind items).Apart e := by
    intro items e he
    cases e with
    | line l => exact ⟨trivial, trivial⟩
    | list kind' items' =>
      have hne : kind' ≠ kind := fun heq => he items' (heq ▸ rfl)
      exact ⟨hne, hne.symm⟩
  induction l generalizing run with
  | nil =>
    rw [gather, closeRun]
    split <;> simp
  | cons a l ih =>
    have htail := ih (fun b hb => hkeep b (List.mem_cons_of_mem a hb)) hchain.tail
    simp only [gather]
    split
    · exact htail _
    · next hnone =>
      have ha := hkeep a List.mem_cons_self hnone
      have hkept : (keep a :: gather kind item? keep [] l).IsChain Element.Apart := by
        refine (htail []).cons fun e he => ?_
        cases l with
        | nil => cases he
        | cons b l =>
          simp only [gather] at he
          split at he
          · next t _ =>
            obtain ⟨items, hitems⟩ : ∃ items,
                (gather kind item? keep [t] l).head? = some (.list kind items) :=
              head?_gather_of_ne_nil (List.cons_ne_nil t []) l
            rw [List.nil_append, hitems, Option.mem_some_iff] at he
            exact he ▸ (hlist ha).1
          · obtain rfl : keep b = e := by simpa [closeRun] using he
            exact (List.isChain_cons_cons.1 hchain).1
      rw [closeRun]
      split
      · exact hkept
      · exact hkept.cons fun e he => by
          obtain rfl : keep a = e := by simpa using he
          exact (hlist ha).2

/-- How an element stands in the input and in the answer of a pass. A list of the kind that is
gathered stands there by its items, which are found by `f`, and is answered; of any other element
something stands there that holds no item, and that is kept. -/
structure Stands (kind : ListKind) (item? : α → Option Text) (keep : α → Element) (f : Text → α)
    (e : Element) (input : List α) (answer : List Element) : Prop where
  gathered : ∀ items, e = .list kind items →
    items ≠ [] ∧ input = items.map f ∧ answer = [.list kind items]
  kept : (∀ items, e ≠ .list kind items) →
    input ≠ [] ∧ (∀ a ∈ input, item? a = none) ∧ answer = input.map keep

/-- **A pass finds the lists whose items stand in its input**, if no two of them are side by side.
-/
theorem gather_flatMap {f : Text → α} (hf : ∀ t, item? (f t) = some t) {input : Element → List α}
    {answer : Element → List Element} {elements : List Element}
    (hstands : ∀ e ∈ elements, Stands kind item? keep f e (input e) (answer e))
    (hapart : elements.IsChain Element.Apart) :
    gather kind item? keep [] (elements.flatMap input) = elements.flatMap answer := by
  induction elements with
  | nil => rfl
  | cons e elements ih =>
    have hrest := ih (fun e' he' => hstands e' (List.mem_cons_of_mem e he')) hapart.tail
    have he := hstands e List.mem_cons_self
    rw [List.flatMap_cons, List.flatMap_cons]
    by_cases hlist : ∃ items, e = .list kind items
    · obtain ⟨items, rfl⟩ := hlist
      obtain ⟨hne, hinput, hanswer⟩ := he.gathered items rfl
      -- The element behind the list is not gathered, so the run of items ends there.
      have hhead : ∀ a ∈ (elements.flatMap input).head?, item? a = none := by
        intro a ha
        cases elements with
        | nil => cases ha
        | cons e' elements =>
          have hother : ∀ items', e' ≠ .list kind items' := by
            rintro items' rfl
            exact (List.isChain_cons_cons.1 hapart).1 rfl
          obtain ⟨hne', hnone, -⟩ := (hstands e' (by simp)).kept hother
          obtain ⟨b, bs, hbs⟩ := List.exists_cons_of_ne_nil hne'
          rw [List.flatMap_cons, hbs, List.cons_append, List.head?_cons, Option.mem_some_iff] at ha
          exact hnone a (by rw [hbs, ha]; exact List.mem_cons_self)
      rw [hinput, hanswer, gather_map_append hf, gather_of_head? _ hhead, hrest, closeRun,
        if_neg (by simpa using hne)]
      rfl
    · have hother : ∀ items, e ≠ .list kind items := fun items h => hlist ⟨items, h⟩
      obtain ⟨-, hnone, hanswer⟩ := he.kept hother
      rw [gather_append_of_none hnone, hanswer, hrest]

end Gather

/-- **Grouping leaves grouped elements.** -/
theorem grouped_of_mem_gatherRemaining {block : List Line} {e : Element}
    (h : e ∈ gatherRemaining (gatherBullets block)) : e.Grouped := by
  have hitem := itemText?_of_mem_gatherRemaining h
  have hlist : ∀ kind items, e = .list kind items → items ≠ [] := by
    rintro kind items rfl
    rcases mem_gather h with ⟨items', hne, heq⟩ | ⟨e', he', -, heq⟩
    · cases heq
      exact hne
    · cases heq
      rcases mem_gather he' with ⟨items', hne, heq⟩ | ⟨l, -, -, heq⟩
      · cases heq
        exact hne
      · cases heq
  cases e with
  | line l =>
    cases l with
    | item marker t => cases hitem
    | _ => trivial
  | list kind items => exact hlist kind items rfl

/-- **Grouping puts no two lists of one kind side by side.** -/
theorem isChain_gatherRemaining (block : List Line) :
    (gatherRemaining (gatherBullets block)).IsChain Element.Apart := by
  have hbullets : (gatherBullets block).IsChain Element.Apart := by
    refine isChain_gather (fun l _ _ items heq => by cases heq) ?_ []
    exact (List.pairwise_of_forall fun _ _ => trivial).isChain
  refine isChain_gather (fun e he _ items heq => ?_) hbullets []
  -- The first pass makes no ordered lists.
  rcases mem_gather he with ⟨items', -, rfl⟩ | ⟨l, -, -, rfl⟩
  · cases heq
  · cases heq

/-- What the first pass makes of the lines of an element: the items of an ordered list are left for
the second. -/
def Element.half : Element → List Element
  | list .ordered items => items.map fun t => .line (.item .numbered t)
  | e => [e]

variable {elements : List Element}

private theorem gatherBullets_flatMap_expand (hgrouped : ∀ e ∈ elements, e.Grouped)
    (hapart : elements.IsChain Element.Apart) :
    gatherBullets (elements.flatMap Element.expand) = elements.flatMap Element.half := by
  refine gather_flatMap (f := .item .bullet) (fun _ => rfl) (fun e he => ?_) hapart
  have hgroup := hgrouped e he
  refine ⟨?_, fun hother => ?_⟩
  · rintro items rfl
    exact ⟨hgroup, rfl, rfl⟩
  · cases e with
    | list kind items =>
      cases kind with
      | unordered => exact absurd rfl (hother items)
      | ordered =>
        have hne : items ≠ [] := hgroup
        simp [Element.expand, Element.half, hne, Line.bulletText?, ListKind.marker]
    | line l =>
      cases l with
      | item marker t => exact hgroup.elim
      | _ => simp [Element.expand, Element.half, Line.bulletText?]

private theorem gatherRemaining_flatMap_half (hgrouped : ∀ e ∈ elements, e.Grouped)
    (hapart : elements.IsChain Element.Apart) :
    gatherRemaining (elements.flatMap Element.half) = elements := by
  have hsingle : elements.flatMap (fun e => [e]) = elements := List.flatMap_singleton' elements
  conv_rhs => rw [← hsingle]
  refine gather_flatMap (f := fun t => .line (.item .numbered t)) (fun _ => rfl) (fun e he => ?_)
    hapart
  have hgroup := hgrouped e he
  refine ⟨?_, fun hother => ?_⟩
  · rintro items rfl
    exact ⟨hgroup, rfl, rfl⟩
  · cases e with
    | list kind items =>
      cases kind with
      | unordered => simp [Element.half, Element.itemText?]
      | ordered => exact absurd rfl (hother items)
    | line l =>
      cases l with
      | item marker t => exact hgroup.elim
      | _ => simp [Element.half, Element.itemText?]

/-- **Grouped elements are what the passes make of their lines.** -/
theorem gatherRemaining_flatMap_expand (hgrouped : ∀ e ∈ elements, e.Grouped)
    (hapart : elements.IsChain Element.Apart) :
    gatherRemaining (gatherBullets (elements.flatMap Element.expand)) = elements := by
  rw [gatherBullets_flatMap_expand hgrouped hapart, gatherRemaining_flatMap_half hgrouped hapart]

end ServiceCharter.Markup

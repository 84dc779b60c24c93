import ServiceCharter.Markup.Block
import ServiceCharter.Proofs.Text.Pieces

/-!
# The classes of lines

The three stages look at one line at a time, so together they give every line a class of its own:
`Line.classOf`, and `classify` is nothing but `classOf` on each line of a source (`classify_eq_map`,
with the one exception of the empty source, which has no lines). A line of white space is never
given a marked class, because a marker is no white space.

`Line.Spells` says how a line with a given class may be written. A line has the class of what it
spells (`Line.classOf_of_spells`), and it spells the class that it has (`Line.spells_classOf`).
-/

namespace ServiceCharter.Markup

open Text

/-- The class that the three stages, one after another, give a line. -/
def Line.classOf (t : Text) : Line :=
  (((Line.ofText t).reclassify fun t => (headingContent? t).map .heading).reclassify
    fun t => (bulletContent? t).map (.item .bullet)).reclassify
      fun t => (numberedContent? t).map (.item .numbered)

@[simp] theorem Line.classOf_nil : Line.classOf [] = .blank := rfl

/-- The stages give each line the class that it has on its own. -/
private theorem withNumbered_withBullets_withHeadings_map_ofText (ts : List Text) :
    withNumbered (withBullets (withHeadings (ts.map Line.ofText))) = ts.map Line.classOf := by
  simp only [withNumbered, withBullets, withHeadings, List.map_map]
  rfl

theorem classify_eq_map {source : Text} (h : source ≠ []) :
    classify source = (lines source).map Line.classOf := by
  rw [classify, sourceLines, if_neg (by simpa using h),
    withNumbered_withBullets_withHeadings_map_ofText]

/-- The blocks of the classified source; the exception of the empty source makes no difference. -/
theorem blocks_classify (source : Text) :
    blocks (classify source) = blocks ((lines source).map Line.classOf) := by
  cases source with
  | nil => rfl
  | cons c source => rw [classify_eq_map (List.cons_ne_nil c source)]

/-! ### What the stages look for -/

/-- Content stands behind some white space, and begins where that ends. -/
theorem contentAfter?_eq_some_iff {t content : Text} :
    contentAfter? t = some content ↔
      ∃ w, t = w ++ content ∧ w ≠ [] ∧ allBlank w = true ∧ beginsBare content = true := by
  constructor
  · intro h
    cases t with
    | nil => cases h
    | cons c t =>
      simp only [contentAfter?] at h
      split at h
      · next hc =>
        split at h
        · cases h
        · next hne =>
          obtain rfl : trimStart t = content := by simpa using h
          obtain ⟨w, ht, hw⟩ := exists_trimStart_eq t
          refine ⟨c :: w, congrArg (c :: ·) ht, List.cons_ne_nil c w, ?_, ?_⟩
          · simpa [allBlank, hc] using hw
          · exact beginsBare_trimStart fun hnil => hne hnil
      · cases h
  · rintro ⟨w, rfl, hw, hblank, hbare⟩
    obtain ⟨c, w, rfl⟩ := List.exists_cons_of_ne_nil hw
    obtain ⟨a, u, rfl, ha⟩ := beginsBare_iff.1 hbare
    simp only [allBlank, List.all_cons, Bool.and_eq_true] at hblank
    have htrim : trimStart (w ++ a :: u) = a :: u := by
      rw [trimStart_append_of_allBlank hblank.2, trimStart_cons_of_not_isBlank ha]
    simp only [List.cons_append, contentAfter?, hblank.1, if_true, htrim]

/-- An ordinal is one digit or more, and a point. -/
theorem afterOrdinal?_eq_some_iff {t rest : Text} :
    afterOrdinal? t = some rest ↔
      ∃ digits, t = digits ++ '.' :: rest ∧ digits ≠ [] ∧ ∀ d ∈ digits, d.isDigit = true := by
  constructor
  · intro h
    unfold afterOrdinal? at h
    split at h
    · cases h
    · next hne =>
      split at h
      · next hdrop =>
        cases h
        refine ⟨t.takeWhile Char.isDigit, ?_, by simpa using hne, fun d => List.mem_takeWhile_imp⟩
        rw [← hdrop, List.takeWhile_append_dropWhile]
      · cases h
  · rintro ⟨digits, rfl, hne, hdigits⟩
    have hpoint : '.'.isDigit = false := by decide
    have htake : (digits ++ '.' :: rest).takeWhile Char.isDigit = digits := by
      rw [List.takeWhile_append_of_pos hdigits]
      simp [hpoint]
    have hdrop : (digits ++ '.' :: rest).dropWhile Char.isDigit = '.' :: rest := by
      rw [List.dropWhile_append_of_pos hdigits]
      simp [hpoint]
    rw [afterOrdinal?, htake, hdrop, if_neg (by simpa using hne)]
    rfl

theorem headingContent?_eq_some_iff {t content : Text} :
    headingContent? t = some content ↔
      ∃ u, t = '#' :: '#' :: u ∧ contentAfter? u = some content := by
  unfold headingContent?
  split <;> simp_all

theorem bulletContent?_eq_some_iff {t content : Text} :
    bulletContent? t = some content ↔ ∃ u, t = '-' :: u ∧ contentAfter? u = some content := by
  unfold bulletContent?
  split <;> simp_all

theorem numberedContent?_eq_some_iff {t content : Text} :
    numberedContent? t = some content ↔
      ∃ digits u, t = digits ++ '.' :: u ∧ digits ≠ [] ∧ (∀ d ∈ digits, d.isDigit = true) ∧
        contentAfter? u = some content := by
  simp only [numberedContent?, Option.bind_eq_some_iff, afterOrdinal?_eq_some_iff]
  constructor
  · rintro ⟨u, ⟨digits, rfl, hne, hdigits⟩, hcontent⟩
    exact ⟨digits, u, rfl, hne, hdigits, hcontent⟩
  · rintro ⟨digits, u, rfl, hne, hdigits, hcontent⟩
    exact ⟨u, ⟨digits, rfl, hne, hdigits⟩, hcontent⟩

/-- No stage finds its marker in the text. -/
def Unmarked (t : Text) : Prop :=
  headingContent? t = none ∧ bulletContent? t = none ∧ numberedContent? t = none

instance (t : Text) : Decidable (Unmarked t) := inferInstanceAs (Decidable (_ ∧ _ ∧ _))

/-! ### What the stages do with a line -/

theorem Line.classOf_of_unmarked {t : Text} (hne : t ≠ []) (h : Unmarked t) :
    Line.classOf t = .text t := by
  obtain ⟨hheading, hbullet, hnumbered⟩ := h
  have hof : Line.ofText t = .text t := by simp [Line.ofText, hne]
  rw [Line.classOf, hof]
  simp only [Line.reclassify, hheading, hbullet, hnumbered, Option.map_none, Option.getD_none]

/-- A line of white space keeps its class as text: no marker begins with white space. -/
theorem Line.classOf_of_allBlank {t : Text} (hne : t ≠ []) (h : allBlank t = true) :
    Line.classOf t = .text t := by
  obtain ⟨c, u, rfl⟩ := List.exists_cons_of_ne_nil hne
  have hc : isBlank c = true := allBlank_eq_true_iff.1 h c (by simp)
  refine Line.classOf_of_unmarked hne ⟨?_, ?_, ?_⟩
  · refine Option.eq_none_iff_forall_ne_some.2 fun content hcontent => ?_
    obtain ⟨v, heq, -⟩ := headingContent?_eq_some_iff.1 hcontent
    obtain rfl : c = '#' := by simpa using congrArg List.head? heq
    exact absurd hc (by decide)
  · refine Option.eq_none_iff_forall_ne_some.2 fun content hcontent => ?_
    obtain ⟨v, heq, -⟩ := bulletContent?_eq_some_iff.1 hcontent
    obtain rfl : c = '-' := by simpa using congrArg List.head? heq
    exact absurd hc (by decide)
  · have hdigit : c.isDigit = false := by
      by_contra hd
      rw [not_isBlank_of_isDigit (by simpa using hd)] at hc
      cases hc
    simp [numberedContent?, afterOrdinal?, hdigit]

/-- What the stages may do with a line that is not empty. -/
theorem Line.classOf_cases {t : Text} (hne : t ≠ []) :
    (∃ content, headingContent? t = some content ∧ Line.classOf t = .heading content) ∨
      (∃ content, bulletContent? t = some content ∧ Line.classOf t = .item .bullet content) ∨
      (∃ content, numberedContent? t = some content ∧ Line.classOf t = .item .numbered content) ∨
      (Unmarked t ∧ Line.classOf t = .text t) := by
  have hof : Line.ofText t = .text t := by simp [Line.ofText, hne]
  unfold Line.classOf
  rw [hof]
  simp only [Line.reclassify]
  -- A stage looks at the lines that the stages before it have left as text.
  cases hh : headingContent? t with
  | some content => exact Or.inl ⟨content, rfl, by simp⟩
  | none =>
    cases hb : bulletContent? t with
    | some content => exact Or.inr (Or.inl ⟨content, rfl, by simp [hb]⟩)
    | none =>
      cases hn : numberedContent? t with
      | some content => exact Or.inr (Or.inr (Or.inl ⟨content, rfl, by simp [hb, hn]⟩))
      | none => exact Or.inr (Or.inr (Or.inr ⟨⟨hh, hb, hn⟩, by simp [hb, hn]⟩))

/-! ### Spellings of a line -/

/-- White space that may stand behind a marker. -/
structure Gap (w : Text) : Prop where
  ne_nil : w ≠ [] := by decide
  allBlank : allBlank w = true := by decide
  newline_notMem : '\n' ∉ w := by decide

/-- How the marker of an item may be written. -/
inductive Marker.Spells : Marker → Text → Prop
  | bullet : Spells .bullet ['-']
  | numbered {digits : Text} (hne : digits ≠ []) (h : ∀ d ∈ digits, d.isDigit = true) :
    Spells .numbered (digits ++ ['.'])

/-- A marker holds nothing but a hyphen, or digits and a point. -/
theorem Marker.Spells.notMem {marker : Marker} {m : Text} (h : marker.Spells m) {c : Char}
    (hhyphen : c ≠ '-') (hpoint : c ≠ '.') (hdigit : c.isDigit = false) : c ∉ m := by
  cases h with
  | bullet => simpa using hhyphen
  | @numbered digits hne h =>
    rw [List.mem_append, List.mem_singleton, not_or]
    refine ⟨fun hmem => ?_, hpoint⟩
    rw [h c hmem] at hdigit
    cases hdigit

theorem Marker.Spells.newline_notMem {marker : Marker} {m : Text} (h : marker.Spells m) :
    '\n' ∉ m :=
  h.notMem (by decide) (by decide) (by decide)

namespace Line

/-- How a line with the given class may be written. -/
inductive Spells : Line → Text → Prop
  | blank : Spells .blank []
  | text {t : Text} (hne : t ≠ []) (ht : Unmarked t) : Spells (.text t) t
  | heading {w t : Text} (hw : Gap w) (ht : beginsBare t = true) :
    Spells (.heading t) (['#', '#'] ++ (w ++ t))
  | item {marker : Marker} {m w t : Text} (hm : marker.Spells m) (hw : Gap w)
    (ht : beginsBare t = true) : Spells (.item marker t) (m ++ (w ++ t))

/-- **A line has the class of what it spells.** -/
theorem classOf_of_spells {l : Line} {t : Text} (h : l.Spells t) : classOf t = l := by
  cases h with
  | blank => exact classOf_nil
  | text hne ht => exact classOf_of_unmarked hne ht
  | @heading w t hw ht =>
    have hcontent : headingContent? ('#' :: '#' :: (w ++ t)) = some t :=
      contentAfter?_eq_some_iff.2 ⟨w, rfl, hw.ne_nil, hw.allBlank, ht⟩
    simp [classOf, ofText, reclassify, hcontent]
  | @item marker m w t hm hw ht =>
    have hcontent : contentAfter? (w ++ t) = some t :=
      contentAfter?_eq_some_iff.2 ⟨w, rfl, hw.ne_nil, hw.allBlank, ht⟩
    cases hm with
    | bullet => simp [classOf, ofText, reclassify, headingContent?, bulletContent?, hcontent]
    | @numbered digits hne hdigits =>
      -- Neither of the first two stages looks for a digit.
      obtain ⟨d, ds, rfl⟩ := List.exists_cons_of_ne_nil hne
      have hd : d.isDigit = true := hdigits d List.mem_cons_self
      have hshape : d :: ds ++ ['.'] ++ (w ++ t) = d :: ds ++ '.' :: (w ++ t) := by simp
      have hheading : headingContent? (d :: ds ++ '.' :: (w ++ t)) = none := by
        refine Option.eq_none_iff_forall_ne_some.2 fun content h => ?_
        obtain ⟨u, heq, -⟩ := headingContent?_eq_some_iff.1 h
        rw [(List.cons_eq_cons.1 heq).1] at hd
        exact absurd hd (by decide)
      have hbullet : bulletContent? (d :: ds ++ '.' :: (w ++ t)) = none := by
        refine Option.eq_none_iff_forall_ne_some.2 fun content h => ?_
        obtain ⟨u, heq, -⟩ := bulletContent?_eq_some_iff.1 h
        rw [(List.cons_eq_cons.1 heq).1] at hd
        exact absurd hd (by decide)
      have hnumbered : numberedContent? (d :: ds ++ '.' :: (w ++ t)) = some t :=
        numberedContent?_eq_some_iff.2 ⟨d :: ds, _, rfl, hne, hdigits, hcontent⟩
      have hof : ofText (d :: ds ++ '.' :: (w ++ t)) = .text (d :: ds ++ '.' :: (w ++ t)) := rfl
      rw [hshape, classOf, hof]
      simp only [reclassify, hheading, hbullet, hnumbered, Option.map_none, Option.map_some,
        Option.getD_none, Option.getD_some]

/-- **A line spells its class.** -/
theorem spells_classOf {t : Text} (h : '\n' ∉ t) : (classOf t).Spells t := by
  -- What stands behind a marker stands within the line.
  have hgap : ∀ {u content : Text}, '\n' ∉ u → contentAfter? u = some content →
      ∃ w, u = w ++ content ∧ Gap w ∧ beginsBare content = true := by
    intro u content hu hcontent
    obtain ⟨w, rfl, hne, hblank, hbare⟩ := contentAfter?_eq_some_iff.1 hcontent
    exact ⟨w, rfl, ⟨hne, hblank, fun hmem => hu (List.mem_append_left _ hmem)⟩, hbare⟩
  rcases eq_or_ne t [] with rfl | hne
  · exact .blank
  rcases classOf_cases hne with ⟨content, hcontent, hclass⟩ | ⟨content, hcontent, hclass⟩ |
      ⟨content, hcontent, hclass⟩ | ⟨hunmarked, hclass⟩
  · obtain ⟨u, rfl, hafter⟩ := headingContent?_eq_some_iff.1 hcontent
    obtain ⟨w, rfl, hw, hbare⟩ := hgap (fun hmem => h (by simp [hmem])) hafter
    rw [hclass]
    exact .heading hw hbare
  · obtain ⟨u, rfl, hafter⟩ := bulletContent?_eq_some_iff.1 hcontent
    obtain ⟨w, rfl, hw, hbare⟩ := hgap (fun hmem => h (by simp [hmem])) hafter
    rw [hclass]
    exact .item .bullet hw hbare
  · obtain ⟨digits, u, rfl, hdigits, hall, hafter⟩ := numberedContent?_eq_some_iff.1 hcontent
    obtain ⟨w, rfl, hw, hbare⟩ := hgap (fun hmem => h (by simp [hmem])) hafter
    rw [hclass, List.append_cons]
    exact .item (.numbered hdigits hall) hw hbare
  · rw [hclass]
    exact .text hne hunmarked

end Line

end ServiceCharter.Markup

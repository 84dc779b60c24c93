import ServiceCharter.Proofs.Markup.Leaves

/-!
# The contents of lines

The content of a line is what stands behind its marker, or all of the line if it has none. A line of
a source holds some content, unless it is blank, and the content is on one line; trimming the edges
of a block leaves it so, because a line of which nothing would be left is taken away before.

Every leaf of a display tree is therefore `Legible` (`legible_of_mem_leavesOf_displayTree`): it
holds something, without line feeds, and is what reading makes of its own spelling.
-/

namespace ServiceCharter.Markup

open Text

/-! ### Legible content -/

/-- Content as reading makes it: there is some, it stands on one line, and it is what its spelling
is read as. -/
structure Legible (content : List Inline) : Prop where
  ne_nil : content ≠ []
  newline_notMem : '\n' ∉ spell content
  inlines_spell : inlines (spell content) = content

theorem legible_inlines {t : Text} (hne : t ≠ []) (h : '\n' ∉ t) : Legible (inlines t) where
  ne_nil hnil := by
    have hspell := spell_inlines t
    rw [hnil] at hspell
    exact hne hspell.symm
  newline_notMem := by rwa [spell_inlines]
  inlines_spell := by rw [spell_inlines]

theorem Legible.spell_ne_nil {content : List Inline} (h : Legible content) :
    spell content ≠ [] := by
  intro hnil
  have hread := h.inlines_spell
  have hempty : inlines [] = [] := by rw [inlines]; rfl
  rw [hnil, hempty] at hread
  exact h.ne_nil hread.symm

/-! ### The content of a line -/

/-- The content of a line: what stands behind its marker, or all of it if it has none. -/
def Line.content : Line → Text
  | blank => []
  | text t => t
  | heading title => title
  | item _ t => t

/-- The line holds some content, and on one line. -/
structure Line.Holds (l : Line) : Prop where
  content_ne_nil : l.content ≠ []
  newline_notMem : '\n' ∉ l.content

/-- The content of a line stands at its end. -/
theorem Line.Spells.content_isSuffix {l : Line} {t : Text} (h : l.Spells t) : l.content <:+ t := by
  cases h with
  | blank => exact List.suffix_refl []
  | text => exact List.suffix_refl t
  | @heading w t => exact ⟨['#', '#'] ++ w, List.append_assoc _ w t⟩
  | @item marker m w t => exact ⟨m ++ w, List.append_assoc m w t⟩

/-- Only a blank line is written without content. -/
theorem Line.Spells.content_ne_nil {l : Line} {t : Text} (h : l.Spells t) (hl : l ≠ .blank) :
    l.content ≠ [] := by
  cases h with
  | blank => exact absurd rfl hl
  | text hne => exact hne
  | heading _ ht => exact ne_nil_of_beginsBare ht
  | item _ _ ht => exact ne_nil_of_beginsBare ht

theorem Line.holds_classOf {t : Text} (hne : Line.classOf t ≠ .blank) (h : '\n' ∉ t) :
    (Line.classOf t).Holds where
  content_ne_nil := (Line.spells_classOf h).content_ne_nil hne
  newline_notMem hmem := h ((Line.spells_classOf h).content_isSuffix.subset hmem)

/-! ### Trimming leaves content -/

theorem Line.Holds.trimStart {l : Line} (h : l.Holds) (hl : l.isBlankText = false) :
    l.trimStart.Holds := by
  cases l with
  | text t =>
    obtain ⟨w, ht, -⟩ := exists_trimStart_eq t
    refine ⟨fun hnil => ?_, fun hmem => h.newline_notMem (List.IsSuffix.subset ⟨w, ht.symm⟩ hmem)⟩
    exact absurd (hl.symm.trans (trimStart_eq_nil_iff.1 hnil)) (by decide)
  | _ => exact h

theorem Line.Holds.trimEnd {l : Line} (h : l.Holds) (hl : l.isBlankText = false) :
    l.trimEnd.Holds := by
  cases l with
  | text t =>
    obtain ⟨w, ht, -⟩ := exists_trimEnd_eq t
    refine ⟨fun hnil => ?_, fun hmem => h.newline_notMem (List.IsPrefix.subset ⟨w, ht.symm⟩ hmem)⟩
    exact absurd (hl.symm.trans (trimEnd_eq_nil_iff.1 hnil)) (by decide)
  | _ => exact h

theorem Trims.holds {kept trimmed : List Line} (h : Trims kept trimmed)
    (hkept : ∀ l ∈ kept, l.Holds) : ∀ l ∈ trimmed, l.Holds := by
  cases h with
  | none => exact hkept
  | one l hl =>
    have hstart : l.trimStart.Holds := (hkept l List.mem_cons_self).trimStart hl
    exact List.forall_mem_singleton.2 (hstart.trimEnd (l.isBlankText_trimStart.trans hl))
  | more first between last hfirst hlast =>
    obtain ⟨hheld, hrest⟩ := List.forall_mem_cons.1 hkept
    obtain ⟨hbetween, hend⟩ := List.forall_mem_append.1 hrest
    have hend' : last.Holds := hend last List.mem_cons_self
    exact List.forall_mem_cons.2 ⟨hheld.trimStart hfirst,
      List.forall_mem_append.2 ⟨hbetween, List.forall_mem_singleton.2 (hend'.trimEnd hlast)⟩⟩

/-- **Trimming the edges of a block leaves content in its lines.** -/
theorem holds_of_mem_trimEdges {block : List Line} (h : ∀ l ∈ block, l.Holds) :
    ∀ l ∈ trimEdges block, l.Holds :=
  (trims_keptLines block).holds fun l hl => h l (keptLines_subset block hl)

/-- The lines of a block are lines of the source, and not blank. -/
theorem exists_of_mem_blocks {source : Text} {block : List Line}
    (hblock : block ∈ blocks (classify source)) {l : Line} (hl : l ∈ block) :
    l ≠ .blank ∧ ∃ t ∈ lines source, Line.classOf t = l := by
  have hmem : l ∈ (blocks ((lines source).map Line.classOf)).flatten :=
    List.mem_flatten.2 ⟨block, by rwa [← blocks_classify], hl⟩
  rw [flatten_blocks] at hmem
  obtain ⟨hclass, hne⟩ := List.mem_filter.1 hmem
  exact ⟨by simpa using hne, List.mem_map.1 hclass⟩

theorem holds_of_mem_blocks {source : Text} {block : List Line}
    (hblock : block ∈ blocks (classify source)) : ∀ l ∈ block, l.Holds := by
  intro l hl
  obtain ⟨hne, t, ht, rfl⟩ := exists_of_mem_blocks hblock hl
  exact Line.holds_classOf hne (newline_notMem_of_mem_lines ht)

/-! ### The leaves of a display tree -/

theorem Line.eq_inlines_content {l : Line} {leaf : Leaf} (h : l.leaf? = some leaf) :
    leaf.content = inlines l.content := by
  cases l <;> cases h <;> rfl

/-- **Every leaf of a display tree is legible.** -/
theorem legible_of_mem_leavesOf_displayTree {source : Text} {leaf : Leaf}
    (h : leaf ∈ Node.leavesOf (displayTree source)) : Legible leaf.content := by
  rw [displayTree, leavesOf_prune, Node.leavesOf_eq_flatMap, List.flatMap_assoc] at h
  obtain ⟨block, hblock, hleaf⟩ := List.mem_flatMap.1 h
  rw [← Node.leavesOf_eq_flatMap, leavesOf_blockNodes] at hleaf
  obtain ⟨l, hl, hshown⟩ := List.mem_filterMap.1 hleaf
  have hholds := holds_of_mem_trimEdges (holds_of_mem_blocks hblock) l hl
  rw [Line.eq_inlines_content hshown]
  exact legible_inlines hholds.content_ne_nil hholds.newline_notMem

end ServiceCharter.Markup

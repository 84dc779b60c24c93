import ServiceCharter.Markup.Block
import ServiceCharter.Proofs.Text.Pieces

/-!
# Trimming a block

Trimming takes text lines of white space off the two ends of a block and leaves the others, which
are *kept*. Of the kept lines only the first and the last are changed, and only if they are text:
`Trims` lists the three cases, and `trims_keptLines` says that there is no other. What is known of
trimming follows from the cases.

For a block of text lines, trimming is nothing but the trimming of the text that the lines make
(`exists_trimEdges_map_text`): a line of white space at an end is white space around the text, and
white space at an end of the text is in its first or in its last kept line.
-/

namespace ServiceCharter.Markup

open Text

/-! ### White space at the ends of a line -/

namespace Line

private theorem trimStart_of_ne_text {l : Line} (h : ∀ t, l ≠ .text t) : l.trimStart = l := by
  cases l with
  | text t => exact absurd rfl (h t)
  | _ => rfl

private theorem trimEnd_of_ne_text {l : Line} (h : ∀ t, l ≠ .text t) : l.trimEnd = l := by
  cases l with
  | text t => exact absurd rfl (h t)
  | _ => rfl

theorem isBlankText_trimStart (l : Line) : l.trimStart.isBlankText = l.isBlankText := by
  cases l with
  | text t =>
    rw [Bool.eq_iff_iff]
    change allBlank (Text.trimStart t) = true ↔ allBlank t = true
    rw [← trim_eq_nil_iff, trim_trimStart, trim_eq_nil_iff]
  | _ => rfl

private theorem isBlankText_trimEnd (l : Line) : l.trimEnd.isBlankText = l.isBlankText := by
  cases l with
  | text t =>
    rw [Bool.eq_iff_iff]
    change allBlank (Text.trimEnd t) = true ↔ allBlank t = true
    rw [← trim_eq_nil_iff, trim_trimEnd, trim_eq_nil_iff]
  | _ => rfl

private theorem trimStart_trimStart (l : Line) : l.trimStart.trimStart = l.trimStart := by
  cases l with
  | text t => exact congrArg text (Text.trimStart_trimStart t)
  | _ => rfl

private theorem trimEnd_trimEnd (l : Line) : l.trimEnd.trimEnd = l.trimEnd := by
  cases l with
  | text t => exact congrArg text (Text.trimEnd_trimEnd t)
  | _ => rfl

private theorem trim_trim (l : Line) :
    l.trimStart.trimEnd.trimStart.trimEnd = l.trimStart.trimEnd := by
  cases l with
  | text t => exact congrArg text (Text.trim_trim t)
  | _ => rfl

end Line

/-! ### What trimming does to a block -/

/-- The lines of a block without the text lines of white space at its two ends. -/
def keptLines (block : List Line) : List Line :=
  (block.dropWhile Line.isBlankText).rdropWhile Line.isBlankText

theorem keptLines_subset (block : List Line) : keptLines block ⊆ block := fun _ hl =>
  (List.dropWhile_suffix _).subset ((List.rdropWhile_prefix _ _).subset hl)

/-- What becomes of kept lines: the first loses the white space at its start, and the last that at
its end, as far as they are text. -/
inductive Trims : List Line → List Line → Prop
  | none : Trims [] []
  | one (l : Line) (h : l.isBlankText = false) : Trims [l] [l.trimStart.trimEnd]
  | more (first : Line) (between : List Line) (last : Line) (hfirst : first.isBlankText = false)
    (hlast : last.isBlankText = false) :
    Trims (first :: (between ++ [last])) (first.trimStart :: (between ++ [last.trimEnd]))

private theorem trimLastLine_concat (block : List Line) (l : Line) :
    trimLastLine (block ++ [l]) = block ++ [l.trimEnd] := by
  induction block with
  | nil => rfl
  | cons first block ih =>
    cases block with
    | nil => rfl
    | cons next block => exact congrArg (first :: ·) ih

private theorem trimLastLine_cons_concat (first : Line) (between : List Line) (last : Line) :
    trimLastLine (first :: (between ++ [last])) = first :: (between ++ [last.trimEnd]) :=
  trimLastLine_concat (first :: between) last

/-- A block is its kept lines, with text lines of white space around them. -/
theorem exists_eq_append_keptLines (block : List Line) :
    ∃ front back, block = front ++ keptLines block ++ back ∧
      ∀ l ∈ front ++ back, l.isBlankText = true := by
  refine ⟨block.takeWhile Line.isBlankText,
    (block.dropWhile Line.isBlankText).rtakeWhile Line.isBlankText, ?_, ?_⟩
  · rw [keptLines, List.append_assoc, List.rdropWhile_append_rtakeWhile,
      List.takeWhile_append_dropWhile]
  · exact List.forall_mem_append.2
      ⟨fun l hl => List.mem_takeWhile_imp hl, fun l hl => List.mem_rtakeWhile_imp hl⟩

private theorem isBlankText_of_head?_dropWhile {block : List Line} {l : Line}
    (hl : l ∈ (block.dropWhile Line.isBlankText).head?) : l.isBlankText = false := by
  have hnot := List.head?_dropWhile_not Line.isBlankText block
  rw [Option.mem_def.1 hl] at hnot
  simpa using hnot

private theorem isBlankText_of_head?_keptLines {block : List Line} {l : Line}
    (hl : l ∈ (keptLines block).head?) : l.isBlankText = false := by
  obtain ⟨rest, hrest⟩ : keptLines block <+: block.dropWhile Line.isBlankText :=
    List.rdropWhile_prefix Line.isBlankText _
  -- What is taken off at the end leaves the first line, if it leaves any.
  have hhead : l ∈ (block.dropWhile Line.isBlankText).head? := by
    rw [← hrest, List.head?_append, Option.mem_def.1 hl]
    rfl
  exact isBlankText_of_head?_dropWhile hhead

private theorem isBlankText_of_getLast?_keptLines {block : List Line} {l : Line}
    (hl : l ∈ (keptLines block).getLast?) : l.isBlankText = false := by
  rw [keptLines, List.rdropWhile, List.getLast?_reverse] at hl
  exact isBlankText_of_head?_dropWhile hl

/-- **Trimming a block trims its kept lines.** -/
theorem trims_keptLines (block : List Line) : Trims (keptLines block) (trimEdges block) := by
  have hhead : ∀ l ∈ (keptLines block).head?, l.isBlankText = false :=
    fun _ => isBlankText_of_head?_keptLines
  have hlast : ∀ l ∈ (keptLines block).getLast?, l.isBlankText = false :=
    fun _ => isBlankText_of_getLast?_keptLines
  change Trims _ (trimLastLine ((keptLines block).modifyHead Line.trimStart))
  generalize keptLines block = kept at hhead hlast
  cases kept with
  | nil => exact .none
  | cons first rest =>
    rcases List.eq_nil_or_concat' rest with rfl | ⟨between, last, rfl⟩
    · exact .one first (hhead first rfl)
    · have hend : last.isBlankText = false :=
        hlast last (List.getLast?_concat (l := first :: between))
      rw [List.modifyHead_cons, trimLastLine_cons_concat]
      exact .more first between last (hhead first rfl) hend

namespace Trims

variable {kept trimmed : List Line}

/-- Without the white space lines around them, kept lines are trimmed to the same. -/
theorem trimEdges_eq (h : Trims kept trimmed) : trimEdges kept = trimmed := by
  cases h with
  | none => rfl
  | one l h => simp [trimEdges, trimLastLine, h]
  | more first between last hfirst hlast =>
    have hkept : ((first :: (between ++ [last])).reverse.dropWhile Line.isBlankText).reverse =
        first :: (between ++ [last]) := by
      simp [hlast]
    rw [trimEdges, List.dropWhile_cons_of_neg (by simp [hfirst]), hkept, List.modifyHead_cons,
      trimLastLine_cons_concat]

/-- Trimmed lines have nothing left to trim. -/
theorem self (h : Trims kept trimmed) : Trims trimmed trimmed := by
  cases h with
  | none => exact .none
  | one l h =>
    have hl : l.trimStart.trimEnd.isBlankText = false := by
      rw [Line.isBlankText_trimEnd, Line.isBlankText_trimStart, h]
    simpa only [Line.trim_trim] using Trims.one _ hl
  | more first between last hfirst hlast =>
    have hfirst' : first.trimStart.isBlankText = false := by
      rw [Line.isBlankText_trimStart, hfirst]
    have hlast' : last.trimEnd.isBlankText = false := by
      rw [Line.isBlankText_trimEnd, hlast]
    simpa only [Line.trimStart_trimStart, Line.trimEnd_trimEnd] using
      Trims.more _ between _ hfirst' hlast'

theorem length_eq (h : Trims kept trimmed) : trimmed.length = kept.length := by
  cases h <;> simp

/-- Headings, items and the lines between the first and the last stay as they are. -/
theorem getElem?_eq (h : Trims kept trimmed) {i : Nat} {l : Line} (hl : kept[i]? = some l)
    (hfixed : (∀ t, l ≠ .text t) ∨ 0 < i ∧ i + 1 < kept.length) : trimmed[i]? = some l := by
  cases h with
  | none => cases hl
  | one =>
    obtain ⟨rfl, rfl⟩ : i = 0 ∧ _ = l := by
      cases i with
      | zero => exact ⟨rfl, Option.some.inj hl⟩
      | succ i => simp at hl
    obtain hl | ⟨-, hi⟩ := hfixed
    · rw [Line.trimStart_of_ne_text hl, Line.trimEnd_of_ne_text hl]
      rfl
    · exact absurd hi (by simp)
  | more first between last =>
    cases i with
    | zero =>
      obtain rfl : first = l := Option.some.inj hl
      obtain hl | ⟨hi, -⟩ := hfixed
      · rw [Line.trimStart_of_ne_text hl]
        rfl
      · exact absurd hi (Nat.lt_irrefl 0)
    | succ i =>
      rw [List.getElem?_cons_succ] at hl ⊢
      have hi : i ≤ between.length := by
        obtain ⟨hbound, -⟩ := List.getElem?_eq_some_iff.1 hl
        rwa [List.length_append, List.length_singleton, Nat.lt_succ_iff] at hbound
      obtain hi | rfl := hi.lt_or_eq
      · rw [List.getElem?_append_left hi] at hl ⊢
        exact hl
      · rw [List.getElem?_concat_length] at hl ⊢
        obtain rfl : last = l := Option.some.inj hl
        obtain hl | ⟨-, hlt⟩ := hfixed
        · rw [Line.trimEnd_of_ne_text hl]
        · exact absurd hlt (by simp)

end Trims

/-- Kept lines of text stay text, and what they make is trimmed as a text. -/
theorem Trims.exists_texts {ks : List Text} {trimmed : List Line}
    (h : Trims (ks.map .text) trimmed) :
    ∃ us, trimmed = us.map .text ∧ ['\n'].intercalate us = trim (['\n'].intercalate ks) := by
  generalize hkept : ks.map Line.text = kept at h
  cases h with
  | none =>
    obtain rfl := List.map_eq_nil_iff.1 hkept
    exact ⟨[], rfl, rfl⟩
  | one l h =>
    obtain ⟨t, rfl, rfl⟩ := List.map_eq_singleton_iff.1 hkept
    exact ⟨[trim t], rfl, by rw [List.intercalate_singleton, List.intercalate_singleton]⟩
  | more first between last hfirst hlast =>
    obtain ⟨t, rest, rfl, rfl, hrest⟩ := List.map_eq_cons_iff.1 hkept
    obtain ⟨mid, rest', rfl, rfl, hend⟩ := List.map_eq_append_iff.1 hrest
    obtain ⟨u, rfl, rfl⟩ := List.map_eq_singleton_iff.1 hend
    refine ⟨Text.trimStart t :: (mid ++ [Text.trimEnd u]), ?_, ?_⟩
    · simp [Line.trimStart, Line.trimEnd]
    · rw [← List.cons_append, intercalate_concat, ← List.cons_append, intercalate_concat,
        List.flatMap_cons, List.flatMap_cons]
      have htrim := trim_append_append_of_not_allBlank hfirst hlast
        (['\n'] ++ mid.flatMap (· ++ ['\n']))
      simpa only [List.append_assoc] using htrim.symm

/-- **A block of text is trimmed as its text is.** -/
theorem exists_trimEdges_map_text (ts : List Text) :
    ∃ us, trimEdges (ts.map .text) = us.map .text ∧
      ['\n'].intercalate us = trim (['\n'].intercalate ts) := by
  obtain ⟨front, back, hsplit, hblank⟩ := exists_eq_append_keptLines (ts.map Line.text)
  have htrims := trims_keptLines (ts.map Line.text)
  obtain ⟨rest, bs, rfl, hrest, rfl⟩ := List.map_eq_append_iff.1 hsplit
  obtain ⟨fs, ks, rfl, rfl, hks⟩ := List.map_eq_append_iff.1 hrest
  rw [← hks] at htrims
  obtain ⟨us, hus, hjoin⟩ := htrims.exists_texts
  refine ⟨us, hus, ?_⟩
  have hsep : allBlank ['\n'] = true := by decide
  have hfs : ∀ t ∈ fs, allBlank t = true := fun t ht => hblank (.text t) (by simp [ht])
  have hbs : ∀ t ∈ bs, allBlank t = true := fun t ht => hblank (.text t) (by simp [ht])
  rw [hjoin, trim_intercalate_append_blanks hsep hbs, trim_intercalate_blanks_append hsep hfs]

/-- **Trimming a block takes white space off its two ends, and nothing else.** What the lines of a
block of text make, joined with line feeds, is trimmed as a text. Of any block, text lines of white
space are taken off at the two ends; of the lines that are kept, headings and items stay as they
are, and so does every line that has another one on each side. Trimming a second time changes
nothing. -/
theorem trimEdges_trims_ends :
    (∀ ts : List Text, ∃ us, trimEdges (ts.map .text) = us.map .text ∧
      ['\n'].intercalate us = trim (['\n'].intercalate ts)) ∧
    ∀ block : List Line,
      trimEdges (trimEdges block) = trimEdges block ∧
      (∃ front back, block = front ++ keptLines block ++ back ∧
        ∀ l ∈ front ++ back, l.isBlankText = true) ∧
      Trims (keptLines block) (trimEdges block) ∧
      (trimEdges block).length = (keptLines block).length ∧
      ∀ i l, (keptLines block)[i]? = some l →
        (∀ t, l ≠ .text t) ∨ 0 < i ∧ i + 1 < (keptLines block).length →
        (trimEdges block)[i]? = some l := by
  refine ⟨exists_trimEdges_map_text, fun block => ?_⟩
  have htrims := trims_keptLines block
  exact ⟨htrims.self.trimEdges_eq, exists_eq_append_keptLines block, htrims, htrims.length_eq,
    fun i l => htrims.getElem?_eq⟩

/-- A block with a heading first, a text line between two others, and white space at both ends. -/
def mixedBlock : List Line :=
  [.text [' '], .heading ['T', ' '], .text [' ', 'a', ' '], .text ['b', ' '], .text ['\t']]

/-- The heading and the line in the middle stay as they are. -/
theorem trimEdges_mixedBlock :
    (trimEdges mixedBlock)[0]? = some (.heading ['T', ' ']) ∧
    (trimEdges mixedBlock)[1]? = some (.text [' ', 'a', ' ']) := by
  obtain ⟨-, -, -, -, hfixed⟩ := trimEdges_trims_ends.2 mixedBlock
  exact ⟨hfixed 0 _ rfl (Or.inl (by simp)), hfixed 1 _ rfl (Or.inr (by decide))⟩

end ServiceCharter.Markup

import ServiceCharter.Proofs.Text.Edges

/-!
# Cutting and joining texts

Everything about the lines of a text follows from one equation: a line feed cuts a text into the
lines of what stands before it and the lines of what stands behind it (`lines_append_newline`).
Joining goes the other way, piece by piece and group by group.
-/

namespace ServiceCharter

section Lists

variable {α : Type}

/-! ### Cutting lists -/

section Cutting

variable {p : α → Bool}

/-- Cutting drops the separators and nothing else. -/
theorem flatten_splitOnP (l : List α) : (l.splitOnP p).flatten = l.filter fun a => !p a := by
  induction l with
  | nil => rfl
  | cons a l ih =>
    rw [List.splitOnP_cons_eq_if_modifyHead]
    by_cases h : p a = true
    · rw [if_pos h, List.flatten_cons, ih]
      simp [h]
    · obtain ⟨piece, pieces, heq⟩ := List.exists_cons_of_ne_nil (List.splitOnP_ne_nil p l)
      rw [heq] at ih
      rw [if_neg h, heq]
      simpa [h] using ih

/-- No piece holds a separator. -/
theorem eq_false_of_mem_splitOnP {l piece : List α} (h : piece ∈ l.splitOnP p) :
    ∀ a ∈ piece, p a = false := by
  induction l generalizing piece with
  | nil => simp_all [List.splitOnP_nil]
  | cons b l ih =>
    rw [List.splitOnP_cons_eq_if_modifyHead] at h
    by_cases hb : p b = true
    · rw [if_pos hb] at h
      rcases List.mem_cons.1 h with rfl | h
      · exact fun a ha => absurd ha List.not_mem_nil
      · exact ih h
    · obtain ⟨first, pieces, heq⟩ := List.exists_cons_of_ne_nil (List.splitOnP_ne_nil p l)
      rw [if_neg hb, heq, List.modifyHead_cons] at h
      rcases List.mem_cons.1 h with rfl | h
      · exact List.forall_mem_cons.2
          ⟨Bool.eq_false_iff.2 hb, ih (heq ▸ List.mem_cons_self)⟩
      · exact ih (heq ▸ List.mem_cons_of_mem first h)

end Cutting

/-! ### Joining lists -/

theorem intercalate_append (sep : List α) {ls ms : List (List α)} (hl : ls ≠ []) (hm : ms ≠ []) :
    sep.intercalate (ls ++ ms) = sep.intercalate ls ++ sep ++ sep.intercalate ms := by
  induction ls with
  | nil => exact absurd rfl hl
  | cons l ls ih =>
    cases ls with
    | nil =>
      rw [List.singleton_append, List.intercalate_cons_of_ne_nil hm, List.intercalate_singleton]
    | cons l' ls =>
      rw [List.cons_append, List.cons_append, List.intercalate_cons_cons, ← List.cons_append,
        ih (by simp), List.intercalate_cons_cons]
      simp only [List.append_assoc]

/-- Pieces are joined by writing the separator behind all but the last. -/
theorem intercalate_concat (sep : List α) (ls : List (List α)) (m : List α) :
    sep.intercalate (ls ++ [m]) = ls.flatMap (· ++ sep) ++ m := by
  induction ls with
  | nil => exact List.intercalate_singleton
  | cons l ls ih =>
    rw [List.cons_append, List.intercalate_cons_of_ne_nil (by simp), ih, List.flatMap_cons,
      ← List.append_assoc]

/-- Pieces may be joined group by group, if no group is empty. -/
theorem intercalate_flatten (sep : List α) {groups : List (List (List α))} (h : [] ∉ groups) :
    sep.intercalate groups.flatten = sep.intercalate (groups.map sep.intercalate) := by
  induction groups with
  | nil => rfl
  | cons g groups ih =>
    simp only [List.mem_cons, not_or] at h
    cases groups with
    | nil => simp
    | cons g' groups =>
      have hrest : (g' :: groups).flatten ≠ [] := by
        intro hnil
        exact h.2 (List.mem_cons.2 (Or.inl (List.flatten_eq_nil_iff.1 hnil g' (by simp)).symm))
      rw [List.flatten_cons, intercalate_append sep (Ne.symm h.1) hrest, ih h.2]
      exact List.intercalate_cons_cons.symm

end Lists

namespace Text

/-! ### Lines -/

theorem lines_ne_nil (t : Text) : lines t ≠ [] := List.splitOn_ne_nil _ t

theorem newline_notMem_of_mem_lines {t l : Text} (h : l ∈ lines t) : '\n' ∉ l := fun hmem =>
  absurd (eq_false_of_mem_splitOnP h '\n' hmem) (by decide)

/-- A line holds nothing that is not in the text. -/
theorem subset_of_mem_lines {t l : Text} (h : l ∈ lines t) : l ⊆ t := by
  intro c hc
  have hmem : c ∈ (lines t).flatten := List.mem_flatten.2 ⟨l, h, hc⟩
  rw [lines, List.splitOn_eq_splitOnP, flatten_splitOnP] at hmem
  exact List.mem_of_mem_filter hmem

theorem lines_append_newline (t u : Text) : lines (t ++ '\n' :: u) = lines t ++ lines u :=
  List.splitOn_append_cons_self t u

theorem lines_newline_cons (t : Text) : lines ('\n' :: t) = [] :: lines t :=
  lines_append_newline [] t

theorem lines_of_not_mem {t : Text} (h : '\n' ∉ t) : lines t = [t] := List.splitOn_eq_singleton h

/-- Lines that are joined are the lines of what they make. -/
theorem lines_intercalate {ts : List Text} (hne : ts ≠ []) (h : ∀ t ∈ ts, '\n' ∉ t) :
    lines (['\n'].intercalate ts) = ts :=
  List.splitOn_intercalate '\n' h hne

/-! ### White space between pieces -/

/-- White space joined by white space is white space. -/
theorem allBlank_intercalate {sep : Text} (hsep : allBlank sep = true) {ts : List Text}
    (h : ∀ t ∈ ts, allBlank t = true) : allBlank (sep.intercalate ts) = true := by
  induction ts with
  | nil => rfl
  | cons t ts ih =>
    rcases ts.eq_nil_or_concat with rfl | ⟨_, _, hts⟩
    · rw [List.intercalate_singleton]
      exact h t (by simp)
    · rw [List.intercalate_cons_of_ne_nil (by simp [hts]), allBlank_append, allBlank_append, hsep,
        h t (by simp), ih fun u hu => h u (by simp [hu])]
      rfl

section Blank

variable {sep : Text} (hsep : allBlank sep = true) {blanks : List Text}
  (hblanks : ∀ t ∈ blanks, allBlank t = true)

include hsep hblanks

/-- Pieces of white space in front make no difference to trimming. -/
theorem trim_intercalate_blanks_append (ts : List Text) :
    trim (sep.intercalate (blanks ++ ts)) = trim (sep.intercalate ts) := by
  rcases eq_or_ne blanks [] with rfl | hne
  · rw [List.nil_append]
  rcases eq_or_ne ts [] with rfl | hts
  · rw [List.append_nil, trim_of_allBlank (allBlank_intercalate hsep hblanks),
      List.intercalate_nil, trim_nil]
  · have hlead : allBlank (sep.intercalate blanks ++ sep) = true := by
      rw [allBlank_append, allBlank_intercalate hsep hblanks, hsep, Bool.and_self]
    have hnil : allBlank [] = true := rfl
    rw [intercalate_append sep hne hts, ← List.append_nil (_ ++ sep.intercalate ts),
      trim_append_append hlead hnil]

/-- Pieces of white space behind the others make no difference to trimming. -/
theorem trim_intercalate_append_blanks (ts : List Text) :
    trim (sep.intercalate (ts ++ blanks)) = trim (sep.intercalate ts) := by
  rcases eq_or_ne blanks [] with rfl | hne
  · rw [List.append_nil]
  rcases eq_or_ne ts [] with rfl | hts
  · rw [List.nil_append, trim_of_allBlank (allBlank_intercalate hsep hblanks),
      List.intercalate_nil, trim_nil]
  · have htrail : allBlank (sep ++ sep.intercalate blanks) = true := by
      rw [allBlank_append, allBlank_intercalate hsep hblanks, hsep, Bool.and_self]
    have hnil : allBlank [] = true := rfl
    rw [intercalate_append sep hts hne, List.append_assoc, ← List.nil_append (sep.intercalate ts),
      trim_append_append hnil htrail, List.nil_append]

end Blank

/-- A text that is not all white space has a line that is not. -/
theorem exists_line_of_not_allBlank {t : Text} (h : allBlank t = false) :
    ∃ l ∈ lines t, allBlank l = false := by
  by_contra hcon
  have hall : ∀ l ∈ lines t, allBlank l = true := fun l hl => by
    by_contra hl'
    exact hcon ⟨l, hl, by simpa using hl'⟩
  have hsep : allBlank ['\n'] = true := by decide
  have hjoin := allBlank_intercalate hsep hall
  rw [intercalate_lines, h] at hjoin
  cases hjoin

end Text

end ServiceCharter

import ServiceCharter.Proofs.Markup.Delimiters
import ServiceCharter.Proofs.PlainText.Markers

/-!
# Bold spans of a line, read and unwrapped

Bold spans are found in two ways. Reading a line cuts it at the first delimiter, and then at the
next; plain text looks for a span wherever it stands in the document. On one line the two agree:
what is left when the spans are unwrapped is what the pieces of the line show
(`withoutBold_eq_shown`).

A search from the left finds the first span that there is. If nothing is cut off, there is no span
(`firstBold?_eq_none_iff`), and if something is, no span begins before it.
-/

namespace ServiceCharter

open Text Markup

@[simp] theorem Markup.shown_plain (t : Text) : shown (plain t) = t := by
  cases t <;> simp [plain, shown, Inline.shown]

namespace PlainText

/-! ### Unwrapping -/

/-- On one line, what stands before the next delimiter is what is cut off there. -/
private theorem untilDelimiter?_eq {t : Text} (h : '\n' ∉ t) :
    untilDelimiter? t = (cutAtDelimiter? t).map Prod.fst := by
  induction t with
  | nil => rfl
  | cons c t ih =>
    rw [List.mem_cons, not_or] at h
    rw [untilDelimiter?_cons, cutAtDelimiter?_cons, if_neg (Ne.symm h.1), ih h.2]
    split
    · rfl
    · rw [Option.map_map, Option.map_map]
      rfl

/-- A text without a first span stays. -/
private theorem replaceFrom_findBold_of_none {t : Text} (h : firstBold? t = none) (b : Bool) :
    replaceFrom findBold 0 b t = t := by
  refine replaceFrom_of_none fun y x hyx _ => ?_
  refine Option.eq_none_iff_forall_ne_some.2 fun hit hhit => ?_
  obtain ⟨c, content, after, rfl, -⟩ := eq_of_findBold hhit
  refine firstBold?_eq_none_iff.1 h ⟨c :: content, List.cons_ne_nil c content, y, after, ?_⟩
  rw [hyx, List.append_assoc, spell_bold_append]
  rfl

/-- What stands before the first delimiter stays. -/
private theorem replaceFrom_findBold_of_cut {t before after : Text}
    (h : cutAtDelimiter? t = some (before, after)) (b : Bool) :
    replaceFrom findBold 0 b t =
      before ++ replaceFrom findBold 0 (endsLine b before) ('*' :: '*' :: after) := by
  have ht : t = before ++ '*' :: '*' :: after := by
    rw [eq_of_cutAtDelimiter? h, List.append_assoc]
    rfl
  rw [ht]
  refine replaceFrom_append_of_none fun y x hyx hx => ?_
  refine Option.eq_none_iff_forall_ne_some.2 fun hit hhit => ?_
  obtain ⟨c, content, after', hsplit, -⟩ := eq_of_findBold hhit
  -- A span that begins here would have been cut at its delimiter.
  obtain ⟨before', _, hcut, hlen, -⟩ :=
    exists_cutAtDelimiter?_append y (c :: (content ++ '*' :: '*' :: after'))
  rw [← hsplit, ← List.append_assoc, ← hyx, ← ht, h] at hcut
  obtain rfl : before = before' := by simpa using congrArg (Option.map Prod.fst) hcut
  have hpos := List.length_pos_iff.2 hx
  rw [hyx, List.length_append] at hlen
  omega

/-- A span on one line is unwrapped. -/
private theorem replaceFrom_findBold_span {c : Char} {after content rest : Text} (hc : c ≠ '\n')
    (hafter : '\n' ∉ after) (hcut : cutAtDelimiter? after = some (content, rest)) (b : Bool) :
    ∃ b', replaceFrom findBold 0 b ('*' :: '*' :: c :: after) =
      c :: content ++ replaceFrom findBold 0 b' rest := by
  have hfind : findBold b ('*' :: '*' :: c :: after) = some ⟨content.length + 4, c :: content⟩ := by
    rw [findBold, if_neg hc, untilDelimiter?_eq hafter, hcut]
    rfl
  have hshape : '*' :: '*' :: c :: after =
      '*' :: (('*' :: c :: content ++ ['*', '*']) ++ rest) := by
    rw [eq_of_cutAtDelimiter? hcut]
    simp [Inline.delimiter]
  have hlen : content.length + 4 = ('*' :: c :: content ++ ['*', '*']).length := by simp
  rw [hshape, hlen] at hfind
  rw [hshape, replaceFrom_of_hit hfind]
  exact ⟨_, rfl⟩

/-- **Unwrapping the bold spans of a line leaves what its pieces show.** -/
theorem replaceFrom_findBold_eq_shown {t : Text} (h : '\n' ∉ t) (b : Bool) :
    replaceFrom findBold 0 b t = shown (inlines t) := by
  fun_induction inlines t generalizing b with
  | case1 t hnone => rw [replaceFrom_findBold_of_none hnone, shown_plain]
  | case2 t before content rest hbold _ ih =>
    have hsuffix : rest <:+ t := by
      rw [eq_of_firstBold? hbold]
      exact List.suffix_append _ rest
    have hrest : '\n' ∉ rest := fun hmem => h (hsuffix.subset hmem)
    obtain ⟨c, content, after, rfl, hcut, hcut'⟩ := cuts_of_firstBold? hbold
    have hline : '\n' ∉ c :: after := by
      rw [eq_of_cutAtDelimiter? hcut] at h
      exact fun hmem => h (List.mem_append_right _ hmem)
    rw [List.mem_cons, not_or] at hline
    obtain ⟨b', hspan⟩ :=
      replaceFrom_findBold_span (Ne.symm hline.1) hline.2 hcut' (endsLine b before)
    have hshown : shown (plain before ++ .bold (c :: content) :: inlines rest) =
        shown (plain before) ++ (c :: content ++ shown (inlines rest)) := by
      simp [shown, Inline.shown]
    rw [replaceFrom_findBold_of_cut hcut, hspan, ih hrest b', hshown, shown_plain]

theorem withoutBold_eq_shown {t : Text} (h : '\n' ∉ t) : withoutBold t = shown (inlines t) :=
  replaceFrom_findBold_eq_shown h true

end PlainText

end ServiceCharter

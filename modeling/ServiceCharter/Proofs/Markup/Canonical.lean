import Mathlib.Data.List.Chain
import Mathlib.Data.Set.Function
import Mathlib.Tactic.MkIffOfInductiveProp
import ServiceCharter.Proofs.Markup.Delimiters

/-!
# Canonical content

Most lists of pieces are not what a line is read as: two plain pieces side by side are read as one,
and a piece that holds a delimiter is cut there. What a line is read as is `Canonical`: a condition
on each piece, one on plain pieces in front of bold ones, and one on a plain piece at the end, where
a delimiter may stand as long as it has no partner.

Nothing else is asked. A bold piece may begin with stars, and a plain piece behind it too, since the
closing delimiter is the first that there is. Reading and spelling are therefore inverse to each
other between all texts and the canonical lists of pieces (`bijOn_inlines`).
-/

namespace ServiceCharter.Markup

/-- The second piece may stand behind the first. -/
def Inline.Precedes : Inline → Inline → Prop
  | text _, text _ => False
  | text t, bold _ => Undelimited t
  | bold _, _ => True

/-- Pieces as reading makes them. -/
@[mk_iff]
structure Canonical (content : List Inline) : Prop where
  /-- No piece is empty. -/
  shown_ne_nil : ∀ piece ∈ content, piece.shown ≠ []
  /-- The closing delimiter of a bold piece is the first behind its first character. -/
  undelimited_tail : ∀ t, .bold t ∈ content → Undelimited t.tail
  isChain_precedes : content.IsChain Inline.Precedes
  /-- No span is left at the end. -/
  not_holdsSpan : ∀ t, content.getLast? = some (.text t) → ¬HoldsSpan t

/-! ### Piece by piece -/

theorem canonical_nil : Canonical [] := ⟨by simp, by simp, by simp, by simp⟩

theorem canonical_text_iff {t : Text} : Canonical [.text t] ↔ t ≠ [] ∧ ¬HoldsSpan t := by
  simp [canonical_iff, Inline.shown]

theorem canonical_text_cons_bold_iff {t u : Text} {content : List Inline} :
    Canonical (.text t :: .bold u :: content) ↔
      t ≠ [] ∧ Undelimited t ∧ Canonical (.bold u :: content) := by
  have hmem : ∀ s, .bold s ∈ Inline.text t :: .bold u :: content ↔
      .bold s ∈ Inline.bold u :: content := by simp
  rw [canonical_iff, canonical_iff, List.forall_mem_cons, List.isChain_cons_cons,
    List.getLast?_cons_cons]
  simp only [hmem]
  constructor
  · exact fun ⟨⟨ht, hne⟩, htail, ⟨hundelimited, hchain⟩, hspan⟩ =>
      ⟨ht, hundelimited, hne, htail, hchain, hspan⟩
  · exact fun ⟨ht, hundelimited, hne, htail, hchain, hspan⟩ =>
      ⟨⟨ht, hne⟩, htail, ⟨hundelimited, hchain⟩, hspan⟩

theorem canonical_bold_cons_iff {t : Text} {content : List Inline} :
    Canonical (.bold t :: content) ↔ t ≠ [] ∧ Undelimited t.tail ∧ Canonical content := by
  have hchain : (Inline.bold t :: content).IsChain Inline.Precedes ↔
      content.IsChain Inline.Precedes := by
    rw [List.isChain_cons]
    exact and_iff_right fun _ _ => trivial
  have hlast : ∀ s, (Inline.bold t :: content).getLast? = some (.text s) ↔
      content.getLast? = some (.text s) := by
    intro s
    cases content with
    | nil => simp
    | cons piece content => rw [List.getLast?_cons_cons]
  rw [canonical_iff, canonical_iff, List.forall_mem_cons, hchain]
  simp only [hlast, List.mem_cons, Inline.bold.injEq, forall_eq_or_imp]
  constructor
  · exact fun ⟨⟨ht, hne⟩, ⟨hfirst, htail⟩, hrest⟩ => ⟨ht, hfirst, hne, htail, hrest⟩
  · exact fun ⟨ht, hfirst, hne, htail, hrest⟩ => ⟨⟨ht, hne⟩, ⟨hfirst, htail⟩, hrest⟩

/-! ### Reading -/

private theorem inlines_of_not_holdsSpan {t : Text} (h : ¬HoldsSpan t) : inlines t = plain t := by
  rw [inlines]
  split
  · rfl
  · next hbold => exact absurd (hbold.symm.trans (firstBold?_eq_none_iff.2 h)) (by simp)

private theorem inlines_append_bold {t u : Text} (ht : Undelimited t) (hu : u ≠ [])
    (htail : Undelimited u.tail) (rest : Text) :
    inlines (t ++ ((Inline.bold u).spell ++ rest)) = plain t ++ .bold u :: inlines rest := by
  have hbold : firstBold? (t ++ ((Inline.bold u).spell ++ rest)) = some (t, u, rest) :=
    firstBold?_eq_some_iff.2 ⟨ht, hu, htail, rfl⟩
  rw [inlines]
  split
  · next hnone => exact absurd (hnone.symm.trans hbold) (by simp)
  · next hsome =>
    cases hsome.symm.trans hbold
    rfl

/-- **What a line is read as is canonical.** -/
theorem canonical_inlines (t : Text) : Canonical (inlines t) := by
  fun_induction inlines t with
  | case1 t hnone =>
    unfold plain
    split
    · exact canonical_nil
    · next hne => exact canonical_text_iff.2 ⟨by simpa using hne, firstBold?_eq_none_iff.1 hnone⟩
  | case2 t before content rest hbold _ ih =>
    obtain ⟨hbefore, hcontent, htail, -⟩ := firstBold?_eq_some_iff.1 hbold
    have hrest : Canonical (.bold content :: inlines rest) :=
      canonical_bold_cons_iff.2 ⟨hcontent, htail, ih⟩
    unfold plain
    split
    · exact hrest
    · next hne => exact canonical_text_cons_bold_iff.2 ⟨by simpa using hne, hbefore, hrest⟩

/-- **Canonical pieces are what their spelling is read as.** -/
theorem Canonical.inlines_spell : ∀ {content : List Inline}, Canonical content →
    inlines (spell content) = content
  | [], _ => by
    rw [inlines]
    rfl
  | [.text t], h => by
    obtain ⟨ht, hspan⟩ := canonical_text_iff.1 h
    have hspell : spell [.text t] = t := by simp [spell, Inline.spell]
    rw [hspell, inlines_of_not_holdsSpan hspan, plain, if_neg (by simpa using ht)]
  | .text _ :: .text _ :: _, h => absurd h.isChain_precedes (by simp [Inline.Precedes])
  | .text t :: .bold u :: content, h => by
    obtain ⟨ht, hundelimited, hbold⟩ := canonical_text_cons_bold_iff.1 h
    obtain ⟨hu, htail, hcontent⟩ := canonical_bold_cons_iff.1 hbold
    have hspell : spell (.text t :: .bold u :: content) =
        t ++ ((Inline.bold u).spell ++ spell content) := by simp [spell, Inline.spell]
    rw [hspell, inlines_append_bold hundelimited hu htail, hcontent.inlines_spell, plain,
      if_neg (by simpa using ht)]
    rfl
  | .bold u :: content, h => by
    obtain ⟨hu, htail, hcontent⟩ := canonical_bold_cons_iff.1 h
    have hspell : spell (.bold u :: content) = [] ++ ((Inline.bold u).spell ++ spell content) := by
      simp [spell]
    rw [hspell, inlines_append_bold undelimited_nil hu htail, hcontent.inlines_spell]
    rfl

/-- **Reading is a bijection** between texts and canonical lists of pieces, and spelling is its
inverse. -/
theorem bijOn_inlines :
    Set.BijOn inlines Set.univ {content | Canonical content} ∧
      Set.InvOn spell inlines Set.univ {content | Canonical content} := by
  have hinv : Set.InvOn spell inlines Set.univ {content | Canonical content} :=
    ⟨fun t _ => spell_inlines t, fun _ h => Canonical.inlines_spell h⟩
  exact ⟨hinv.bijOn (fun t _ => canonical_inlines t) fun _ _ => Set.mem_univ _, hinv⟩

example : inlines "*****a***b**c**".toList =
    [.bold ['*'], .text ['a'], .bold ['*', 'b'], .text ['c', '*', '*']] := by cbv

end ServiceCharter.Markup

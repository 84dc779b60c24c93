import ServiceCharter.Markup.Inline

/-!
# Delimiters of bold spans

Reading a line looks for the first delimiter from the left. What stands before it is a text that
holds none, and none that its own end and the star behind it make (`Undelimited`); conversely, any
such text in front of a delimiter is what is cut off there (`cutAtDelimiter?_eq_some_iff`).

The first bold span is cut off at two delimiters, and the second is looked for behind one character
of content, which may be a star. So the first span is told by what stands before it and by its
content without the first character (`firstBold?_eq_some_iff`). If nothing is found then there is no
span anywhere in the text (`firstBold?_eq_none_iff`).
-/

namespace ServiceCharter.Markup

/-! ### The first delimiter -/

theorem cutAtDelimiter?_cons (c : Char) (t : Text) :
    cutAtDelimiter? (c :: t) =
      if c = '*' ∧ t.head? = some '*' then some ([], t.tail)
      else (cutAtDelimiter? t).map fun (before, after) => (c :: before, after) := by
  by_cases h : c = '*' ∧ t.head? = some '*'
  · obtain ⟨rfl, hhead⟩ := h
    obtain ⟨r, rfl⟩ := List.head?_eq_some_iff.1 hhead
    rfl
  · rw [if_neg h, cutAtDelimiter?]
    rintro r rfl rfl
    exact h ⟨rfl, rfl⟩

/-- A delimiter is found where one stands, or before. -/
theorem exists_cutAtDelimiter?_append (a b : Text) :
    ∃ before after, cutAtDelimiter? (a ++ '*' :: '*' :: b) = some (before, after) ∧
      before.length ≤ a.length ∧ b <:+ after := by
  induction a with
  | nil => exact ⟨[], b, rfl, Nat.le_refl 0, List.suffix_refl b⟩
  | cons c a ih =>
    rw [List.cons_append, cutAtDelimiter?_cons]
    split
    · -- This delimiter may overlap with the one behind `a`, but not reach beyond it.
      refine ⟨[], _, rfl, Nat.zero_le _, ?_⟩
      cases a with
      | nil => exact List.suffix_cons '*' b
      | cons d a => exact ⟨a ++ ['*', '*'], by simp⟩
    · obtain ⟨before, after, hcut, hlen, hsuffix⟩ := ih
      rw [hcut]
      exact ⟨c :: before, after, rfl, Nat.succ_le_succ hlen, hsuffix⟩

/-- The first span stands at the first delimiter, and ends at the next. -/
theorem cuts_of_firstBold? {t before content rest : Text}
    (h : firstBold? t = some (before, content, rest)) :
    ∃ c content' after, content = c :: content' ∧ cutAtDelimiter? t = some (before, c :: after) ∧
      cutAtDelimiter? after = some (content', rest) := by
  unfold firstBold? at h
  split at h
  · next before' c after hcut =>
    obtain ⟨⟨content', rest'⟩, hcut', heq⟩ := Option.map_eq_some_iff.1 h
    cases heq
    exact ⟨c, content', after, rfl, hcut, hcut'⟩
  · cases h

/-! ### What is cut off -/

/-- The text holds no delimiter, and does not end with a star that would make one together with the
next. -/
structure Undelimited (t : Text) : Prop where
  not_isInfix : ¬Inline.delimiter <:+: t
  getLast?_ne : t.getLast? ≠ some '*'

theorem undelimited_nil : Undelimited [] := ⟨by decide, by decide⟩

/-- A delimiter begins with the first character, or behind it. -/
private theorem undelimited_cons_iff {c : Char} {t : Text} :
    Undelimited (c :: t) ↔ ¬(c = '*' ∧ (t ++ ['*']).head? = some '*') ∧ Undelimited t := by
  cases t with
  | nil =>
    have hshort : ¬Inline.delimiter <:+: [c] := fun h =>
      absurd h.length_le (by simp [Inline.delimiter])
    constructor
    · exact fun h => ⟨fun hc => h.getLast?_ne (by simp [hc.1]), undelimited_nil⟩
    · exact fun h => ⟨hshort, fun hlast => h.1 ⟨by simpa using hlast, rfl⟩⟩
  | cons d t =>
    have hstarts : Inline.delimiter <+: c :: d :: t ↔ c = '*' ∧ d = '*' := by
      simp [Inline.delimiter, List.cons_prefix_cons, eq_comm]
    constructor
    · intro h
      refine ⟨fun hc => h.not_isInfix ?_, fun hinfix => h.not_isInfix ?_, ?_⟩
      · exact (hstarts.2 ⟨hc.1, by simpa using hc.2⟩).isInfix
      · exact List.infix_cons hinfix
      · simpa using h.getLast?_ne
    · rintro ⟨hc, h⟩
      refine ⟨fun hinfix => ?_, by simpa using h.getLast?_ne⟩
      rcases List.infix_cons_iff.1 hinfix with hhead | htail
      · obtain ⟨rfl, rfl⟩ := hstarts.1 hhead
        exact hc ⟨rfl, rfl⟩
      · exact h.not_isInfix htail

private theorem cutAtDelimiter?_append_iff {before after : Text} :
    cutAtDelimiter? (before ++ '*' :: '*' :: after) = some (before, after) ↔
      Undelimited before := by
  induction before with
  | nil => exact iff_of_true rfl undelimited_nil
  | cons c before ih =>
    have hhead : (before ++ '*' :: '*' :: after).head? = (before ++ ['*']).head? := by
      cases before <;> rfl
    rw [List.cons_append, cutAtDelimiter?_cons, hhead, undelimited_cons_iff, ← ih]
    split
    · next h => exact iff_of_false (by simp) fun hc => hc.1 h
    · next h =>
      rw [and_iff_right h, Option.map_eq_some_iff]
      simp

/-- **What is cut off at the first delimiter holds none.** -/
theorem cutAtDelimiter?_eq_some_iff {t before after : Text} :
    cutAtDelimiter? t = some (before, after) ↔
      Undelimited before ∧ t = before ++ '*' :: '*' :: after := by
  constructor
  · intro h
    have ht : t = before ++ '*' :: '*' :: after := by
      rw [eq_of_cutAtDelimiter? h, List.append_assoc]
      rfl
    exact ⟨cutAtDelimiter?_append_iff.1 (ht ▸ h), ht⟩
  · rintro ⟨h, rfl⟩
    exact cutAtDelimiter?_append_iff.2 h

/-! ### Spans -/

theorem spell_bold_append (content rest : Text) :
    (Inline.bold content).spell ++ rest = '*' :: '*' :: (content ++ '*' :: '*' :: rest) := by
  simp [Inline.spell, Inline.delimiter]

/-- The first span begins at the first delimiter, and ends at the first behind one character of its
content. -/
theorem firstBold?_eq_some_iff {t before content rest : Text} :
    firstBold? t = some (before, content, rest) ↔
      Undelimited before ∧ content ≠ [] ∧ Undelimited content.tail ∧
        t = before ++ ((Inline.bold content).spell ++ rest) := by
  constructor
  · intro h
    obtain ⟨c, content, after, rfl, hcut, hcut'⟩ := cuts_of_firstBold? h
    obtain ⟨hbefore, rfl⟩ := cutAtDelimiter?_eq_some_iff.1 hcut
    obtain ⟨hcontent, rfl⟩ := cutAtDelimiter?_eq_some_iff.1 hcut'
    exact ⟨hbefore, List.cons_ne_nil c content, hcontent, by rw [spell_bold_append]; rfl⟩
  · rintro ⟨hbefore, hne, hcontent, rfl⟩
    obtain ⟨c, content, rfl⟩ := List.exists_cons_of_ne_nil hne
    have hcut : cutAtDelimiter? (before ++ '*' :: '*' :: (c :: content ++ '*' :: '*' :: rest)) =
        some (before, c :: content ++ '*' :: '*' :: rest) := cutAtDelimiter?_append_iff.2 hbefore
    have hcut' : cutAtDelimiter? (content ++ '*' :: '*' :: rest) = some (content, rest) :=
      cutAtDelimiter?_append_iff.2 hcontent
    rw [spell_bold_append, firstBold?, hcut]
    simp only [List.cons_append, hcut', Option.map_some]

/-- A bold span stands somewhere in the text. -/
def HoldsSpan (t : Text) : Prop := ∃ content ≠ [], (Inline.bold content).spell <:+: t

/-- **Where no first span is found, there is none.** -/
theorem firstBold?_eq_none_iff {t : Text} : firstBold? t = none ↔ ¬HoldsSpan t := by
  constructor
  · rintro h ⟨content, hne, y, after, rfl⟩
    obtain ⟨c, content, rfl⟩ := List.exists_cons_of_ne_nil hne
    rw [List.append_assoc, spell_bold_append] at h
    obtain ⟨before, rest, hcut, -, z, rfl⟩ :=
      exists_cutAtDelimiter?_append y (c :: (content ++ '*' :: '*' :: after))
    -- Behind the first delimiter stands some character, and then another delimiter.
    have hspan : ∃ d z', z ++ c :: (content ++ '*' :: '*' :: after) =
        d :: (z' ++ '*' :: '*' :: after) := by
      cases z with
      | nil => exact ⟨c, content, rfl⟩
      | cons d z => exact ⟨d, z ++ c :: content, by simp⟩
    obtain ⟨d, z', hz⟩ := hspan
    obtain ⟨_, _, hcut', -⟩ := exists_cutAtDelimiter?_append z' after
    rw [hz] at hcut
    simp [firstBold?, hcut, hcut'] at h
  · intro h
    refine Option.eq_none_iff_forall_ne_some.2 fun ⟨before, content, rest⟩ hbold => h ?_
    obtain ⟨-, hne, -, rfl⟩ := firstBold?_eq_some_iff.1 hbold
    exact ⟨content, hne, before, rest, List.append_assoc _ _ _⟩

end ServiceCharter.Markup

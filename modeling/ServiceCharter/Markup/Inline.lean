import ServiceCharter.Text.Basic

/-!
# Bold spans

Within a line, `**` opens a bold span, which takes at least one character and ends at the next
`**`. A delimiter without a partner is ordinary text.

`spell` writes inlines back, and `spell_inlines` says that reading loses nothing.
-/

namespace ServiceCharter.Markup

/-- A piece of a line: plain or bold. No piece that is read is empty. -/
inductive Inline where
  | text (t : Text)
  | bold (t : Text)
deriving DecidableEq, Repr

namespace Inline

/-- The delimiter of bold spans. -/
def delimiter : Text := ['*', '*']

/-- The spelling of a piece. -/
def spell : Inline → Text
  | text t => t
  | bold t => delimiter ++ t ++ delimiter

/-- The text of a piece as a reader sees it. -/
def shown : Inline → Text
  | text t => t
  | bold t => t

end Inline

/-- The spelling of a line of inlines. -/
def spell (content : List Inline) : Text := content.flatMap Inline.spell

/-- The text of a line of inlines as a reader sees it. -/
def shown (content : List Inline) : Text := content.flatMap Inline.shown

/-- What stands before the first delimiter, and what stands after it. -/
def cutAtDelimiter? : Text → Option (Text × Text)
  | [] => none
  | c :: t =>
    match c, t with
    | '*', '*' :: rest => some ([], rest)
    | c, t => (cutAtDelimiter? t).map fun (before, rest) => (c :: before, rest)

theorem eq_of_cutAtDelimiter? {t before rest : Text} (h : cutAtDelimiter? t = some (before, rest)) :
    t = before ++ Inline.delimiter ++ rest := by
  induction t generalizing before with
  | nil => cases h
  | cons c t ih =>
    unfold cutAtDelimiter? at h
    split at h
    · simp only [Option.some.injEq, Prod.mk.injEq] at h
      obtain ⟨rfl, rfl⟩ := h
      rfl
    · simp only [Option.map_eq_some_iff, Prod.exists, Prod.mk.injEq] at h
      obtain ⟨before', rest', hcut, rfl, rfl⟩ := h
      rw [ih hcut]
      simp

/-- The first bold span: what stands before it, its content, and what stands after it. -/
def firstBold? (t : Text) : Option (Text × Text × Text) :=
  match cutAtDelimiter? t with
  | some (before, c :: after) =>
    (cutAtDelimiter? after).map fun (content, rest) => (before, c :: content, rest)
  | _ => none

theorem eq_of_firstBold? {t before content rest : Text}
    (h : firstBold? t = some (before, content, rest)) :
    t = before ++ Inline.delimiter ++ content ++ Inline.delimiter ++ rest := by
  unfold firstBold? at h
  split at h
  · next hcut =>
    simp only [Option.map_eq_some_iff, Prod.exists, Prod.mk.injEq] at h
    obtain ⟨content', rest', hcut', rfl, rfl, rfl⟩ := h
    rw [eq_of_cutAtDelimiter? hcut, eq_of_cutAtDelimiter? hcut']
    simp
  · cases h

theorem length_of_firstBold? {t before content rest : Text}
    (h : firstBold? t = some (before, content, rest)) : rest.length < t.length := by
  rw [eq_of_firstBold? h]
  simp only [List.length_append, Inline.delimiter, List.length_cons]
  omega

/-- A plain piece, left out if it is empty. -/
def plain (t : Text) : List Inline := if t.isEmpty then [] else [.text t]

@[simp] theorem spell_plain (t : Text) : spell (plain t) = t := by
  cases t <;> simp [plain, spell, Inline.spell]

/-- The pieces of a line. -/
def inlines (t : Text) : List Inline :=
  match h : firstBold? t with
  | none => plain t
  | some (before, content, rest) =>
    have := length_of_firstBold? h
    plain before ++ .bold content :: inlines rest
termination_by t.length

/-- Writing the pieces of a line back gives the line. -/
theorem spell_inlines (t : Text) : spell (inlines t) = t := by
  fun_induction inlines t with
  | case1 t h => exact spell_plain t
  | case2 t before content rest h _ ih =>
    have hs : spell (plain before ++ .bold content :: inlines rest) =
        spell (plain before) ++ (Inline.bold content).spell ++ spell (inlines rest) := by
      simp [spell]
    rw [hs, ih, spell_plain, eq_of_firstBold? h]
    simp [Inline.spell]

end ServiceCharter.Markup

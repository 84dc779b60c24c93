import Mathlib.Data.List.Basic
import Mathlib.Data.List.DropRight
import Mathlib.Data.List.TakeWhile
import ServiceCharter.Text.Blank

/-!
# White space at the edges of a text

`trim` is determined by one decomposition: if a text is white space, a *solid* core and white space
again, then trimming gives the core (`trim_eq_of_solid`). A text is `Solid` when it begins and ends
with characters that are not white space; what is cut off around such a text is no concern of
those who read it, and solid pieces stay solid when they are put one behind the other.

`bare` deletes white space everywhere. It does not see what trimming does (`bare_trim`), which makes
it the right view for statements about the content of a text.
-/

namespace ServiceCharter.Text

/-- A text that begins and ends with a character that is not white space. -/
structure Solid (t : Text) : Prop where
  head : ∃ c rest, t = c :: rest ∧ isBlank c = false
  last : ∃ rest c, t = rest ++ [c] ∧ isBlank c = false

theorem Solid.ne_nil {t : Text} (h : Solid t) : t ≠ [] := by
  obtain ⟨c, rest, rfl, -⟩ := h.head
  exact List.cons_ne_nil c rest

theorem Solid.allBlank_eq_false {t : Text} (h : Solid t) : allBlank t = false := by
  obtain ⟨c, rest, rfl, hc⟩ := h.head
  simp [allBlank, hc]

/-- Whether the text begins with a character that is not white space. -/
def beginsBare : Text → Bool
  | [] => false
  | c :: _ => !isBlank c

/-- Whether the text ends with a character that is not white space. -/
def endsBare (t : Text) : Bool := beginsBare t.reverse

theorem beginsBare_iff {t : Text} :
    beginsBare t = true ↔ ∃ c rest, t = c :: rest ∧ isBlank c = false := by
  cases t with
  | nil => simp [beginsBare]
  | cons c t => simp [beginsBare]

theorem ne_nil_of_beginsBare {t : Text} (h : beginsBare t = true) : t ≠ [] := by
  rintro rfl
  cases h

theorem endsBare_iff {t : Text} :
    endsBare t = true ↔ ∃ rest c, t = rest ++ [c] ∧ isBlank c = false := by
  rw [endsBare, beginsBare_iff]
  constructor
  · rintro ⟨c, rest, hrev, hc⟩
    exact ⟨rest.reverse, c, by rw [← t.reverse_reverse, hrev, List.reverse_cons], hc⟩
  · rintro ⟨rest, c, rfl, hc⟩
    exact ⟨c, rest.reverse, by simp, hc⟩

/-! ### Texts of white space -/

theorem allBlank_append {t u : Text} : allBlank (t ++ u) = (allBlank t && allBlank u) :=
  List.all_append

theorem allBlank_eq_true_iff {t : Text} : allBlank t = true ↔ ∀ c ∈ t, isBlank c = true :=
  List.all_eq_true

theorem notMem_of_allBlank {c : Char} (hc : isBlank c = false) {t : Text} (ht : allBlank t = true) :
    c ∉ t := by
  intro hmem
  rw [allBlank_eq_true_iff.1 ht c hmem] at hc
  cases hc

/-- A digit is not white space. -/
theorem not_isBlank_of_isDigit {c : Char} (h : c.isDigit = true) : isBlank c = false := by
  simp only [Char.isDigit, Bool.and_eq_true, decide_eq_true_eq] at h
  have hlow : 48 ≤ c.toNat := h.1
  have hhigh : c.toNat ≤ 57 := h.2
  simp only [isBlank, Ranges.has, blankRanges, List.any_cons, List.any_nil, Bool.or_false,
    Bool.or_eq_false_iff, Bool.and_eq_false_iff, decide_eq_false_iff_not]
  omega

/-- A text that is not all white space has a first character that is not. -/
theorem exists_first_of_not_allBlank {t : Text} (h : allBlank t = false) :
    ∃ w c rest, t = w ++ c :: rest ∧ allBlank w = true ∧ isBlank c = false := by
  induction t with
  | nil => simp [allBlank] at h
  | cons d t ih =>
    by_cases hd : isBlank d = true
    · have ht : allBlank t = false := by simpa [allBlank, hd] using h
      obtain ⟨w, c, rest, rfl, hw, hc⟩ := ih ht
      exact ⟨d :: w, c, rest, rfl, by simpa [allBlank, hd] using hw, hc⟩
    · exact ⟨[], d, t, rfl, rfl, by simpa using hd⟩

/-- A text that is not all white space has a last character that is not. -/
theorem exists_last_of_not_allBlank {t : Text} (h : allBlank t = false) :
    ∃ rest c w, t = rest ++ c :: w ∧ isBlank c = false ∧ allBlank w = true := by
  have hrev : allBlank t.reverse = false := by
    rw [← h]
    exact List.all_reverse
  obtain ⟨w, c, rest, heq, hw, hc⟩ := exists_first_of_not_allBlank hrev
  refine ⟨rest.reverse, c, w.reverse, ?_, hc, ?_⟩
  · rw [← List.reverse_reverse t, heq]
    simp
  · rw [← hw]
    exact List.all_reverse

/-- A text is white space, or white space around a solid core. -/
theorem exists_core (t : Text) :
    allBlank t = true ∨ ∃ lead core trail, t = lead ++ core ++ trail ∧ allBlank lead = true ∧
      allBlank trail = true ∧ Solid core := by
  rcases Bool.eq_false_or_eq_true (allBlank t) with h | h
  · exact Or.inl h
  · obtain ⟨lead, c, rest, rfl, hlead, hc⟩ := exists_first_of_not_allBlank h
    have hcr : allBlank (c :: rest) = false := by simp [allBlank, hc]
    obtain ⟨mid, d, trail, hmid, hd, htrail⟩ := exists_last_of_not_allBlank hcr
    refine Or.inr ⟨lead, mid ++ [d], trail, ?_, hlead, htrail, ⟨?_, mid, d, rfl, hd⟩⟩
    · rw [hmid]
      simp
    · cases mid with
      | nil => exact ⟨d, [], rfl, hd⟩
      | cons e mid =>
        obtain ⟨rfl, -⟩ : c = e ∧ _ := by simpa using hmid
        exact ⟨c, mid ++ [d], rfl, hc⟩

/-! ### Trimming -/

theorem trimStart_append_of_allBlank {w : Text} (h : allBlank w = true) (t : Text) :
    trimStart (w ++ t) = trimStart t := by
  unfold trimStart
  exact List.dropWhile_append_of_pos (allBlank_eq_true_iff.1 h)

theorem trimStart_cons_of_not_isBlank {c : Char} (h : isBlank c = false) (t : Text) :
    trimStart (c :: t) = c :: t := by
  simp [trimStart, h]

theorem trimStart_of_allBlank {t : Text} (h : allBlank t = true) : trimStart t = [] :=
  List.dropWhile_eq_nil_iff.2 (allBlank_eq_true_iff.1 h)

theorem trimEnd_append_of_allBlank {w : Text} (h : allBlank w = true) (t : Text) :
    trimEnd (t ++ w) = trimEnd t := by
  have hrev : allBlank w.reverse = true := by
    rw [← h]
    exact List.all_reverse
  have hdrop := trimStart_append_of_allBlank hrev t.reverse
  unfold trimStart at hdrop
  simp only [trimEnd, List.reverse_append, hdrop]

theorem trimEnd_of_last {t : Text} {c : Char} (h : isBlank c = false) :
    trimEnd (t ++ [c]) = t ++ [c] := by
  simp [trimEnd, h]

theorem trim_of_allBlank {t : Text} (h : allBlank t = true) : trim t = [] := by
  rw [trim, trimStart_of_allBlank h, trimEnd_nil]

/-- **Trimming gives the solid core of a text.** -/
theorem trim_eq_of_solid {lead core trail : Text} (hlead : allBlank lead = true)
    (hcore : Solid core) (htrail : allBlank trail = true) :
    trim (lead ++ core ++ trail) = core := by
  have hstart : trimStart (lead ++ core ++ trail) = core ++ trail := by
    obtain ⟨c, rest, rfl, hc⟩ := hcore.head
    rw [List.append_assoc, trimStart_append_of_allBlank hlead, List.cons_append,
      trimStart_cons_of_not_isBlank hc]
  obtain ⟨rest, c, rfl, hc⟩ := hcore.last
  rw [trim, hstart, trimEnd_append_of_allBlank htrail, trimEnd_of_last hc]

theorem Solid.trim_eq {t : Text} (h : Solid t) : trim t = t := by
  have hnil : allBlank [] = true := rfl
  simpa using trim_eq_of_solid hnil h hnil

/-- White space around a text makes no difference to trimming. -/
theorem trim_append_append {lead trail : Text} (hlead : allBlank lead = true)
    (htrail : allBlank trail = true) (t : Text) : trim (lead ++ t ++ trail) = trim t := by
  rcases exists_core t with ht | ⟨lead', core, trail', rfl, hlead', htrail', hcore⟩
  · have hall : allBlank (lead ++ t ++ trail) = true := by
      simp [allBlank_append, hlead, ht, htrail]
    rw [trim_of_allBlank hall, trim_of_allBlank ht]
  · have hsplit : lead ++ (lead' ++ core ++ trail') ++ trail =
        (lead ++ lead') ++ core ++ (trail' ++ trail) := by simp
    rw [hsplit, trim_eq_of_solid (by simp [allBlank_append, hlead, hlead']) hcore
        (by simp [allBlank_append, htrail, htrail']), trim_eq_of_solid hlead' hcore htrail']

/-- What is left of a text after trimming is solid, unless it is nothing. -/
theorem solid_trim {t : Text} (h : allBlank t = false) : Solid (trim t) := by
  rcases exists_core t with ht | ⟨lead, core, trail, rfl, hlead, htrail, hcore⟩
  · rw [ht] at h
    cases h
  · rwa [trim_eq_of_solid hlead hcore htrail]

/-- What was trimmed stays when it is trimmed again. -/
@[simp] theorem trim_trim (t : Text) : trim (trim t) = trim t := by
  cases h : allBlank t with
  | true => rw [trim_of_allBlank h, trim_nil]
  | false => exact (solid_trim h).trim_eq

theorem trim_eq_nil_iff {t : Text} : trim t = [] ↔ allBlank t = true := by
  constructor
  · intro h
    by_contra hne
    exact (solid_trim (by simpa using hne)).ne_nil h
  · exact trim_of_allBlank

theorem exists_trimStart_eq (t : Text) : ∃ w, t = w ++ trimStart t ∧ allBlank w = true :=
  ⟨t.takeWhile isBlank, List.takeWhile_append_dropWhile.symm,
    List.all_takeWhile⟩

theorem exists_trimEnd_eq (t : Text) : ∃ w, t = trimEnd t ++ w ∧ allBlank w = true := by
  obtain ⟨w, hw, hblank⟩ := exists_trimStart_eq t.reverse
  refine ⟨w.reverse, ?_, ?_⟩
  · unfold trimStart at hw
    rw [trimEnd, ← List.reverse_append, ← hw, List.reverse_reverse]
  · rw [← hblank]
    exact List.all_reverse

theorem trimStart_eq_nil_iff {t : Text} : trimStart t = [] ↔ allBlank t = true :=
  List.dropWhile_eq_nil_iff.trans allBlank_eq_true_iff.symm

theorem trimEnd_eq_nil_iff {t : Text} : trimEnd t = [] ↔ allBlank t = true := by
  constructor
  · intro h
    obtain ⟨w, ht, hw⟩ := exists_trimEnd_eq t
    rwa [ht, h, List.nil_append]
  · intro h
    have hnil := trimEnd_append_of_allBlank h []
    rwa [List.nil_append, trimEnd_nil] at hnil

theorem beginsBare_trimStart {t : Text} (h : trimStart t ≠ []) :
    beginsBare (trimStart t) = true := by
  obtain ⟨c, rest, heq⟩ := List.exists_cons_of_ne_nil h
  have hhead := List.head?_dropWhile_not isBlank t
  rw [show t.dropWhile isBlank = c :: rest from heq] at hhead
  exact beginsBare_iff.2 ⟨c, rest, heq, by simpa using hhead⟩

theorem endsBare_trimEnd {t : Text} (h : trimEnd t ≠ []) : endsBare (trimEnd t) = true := by
  rw [endsBare, trimEnd, List.reverse_reverse]
  exact beginsBare_trimStart fun hnil => h (congrArg List.reverse hnil)

/-- White space is taken off where a text begins and where it ends, and nowhere between. -/
theorem trim_append_append_of_not_allBlank {t u : Text} (ht : allBlank t = false)
    (hu : allBlank u = false) (mid : Text) :
    trim (t ++ mid ++ u) = trimStart t ++ mid ++ trimEnd u := by
  obtain ⟨lead, hlead, hleadblank⟩ := exists_trimStart_eq t
  obtain ⟨trail, htrail, htrailblank⟩ := exists_trimEnd_eq u
  have hfirst : beginsBare (trimStart t) = true :=
    beginsBare_trimStart fun hnil => by simp [trimStart_eq_nil_iff.1 hnil] at ht
  have hlast : endsBare (trimEnd u) = true :=
    endsBare_trimEnd fun hnil => by simp [trimEnd_eq_nil_iff.1 hnil] at hu
  obtain ⟨c, rest, hc, hcbare⟩ := beginsBare_iff.1 hfirst
  obtain ⟨rest', d, hd, hdbare⟩ := endsBare_iff.1 hlast
  have hsolid : Solid (trimStart t ++ mid ++ trimEnd u) :=
    ⟨⟨c, rest ++ mid ++ trimEnd u, by simp [hc], hcbare⟩,
      ⟨trimStart t ++ mid ++ rest', d, by simp [hd], hdbare⟩⟩
  have hsplit : t ++ mid ++ u = lead ++ (trimStart t ++ mid ++ trimEnd u) ++ trail := by
    conv_lhs => rw [hlead, htrail]
    simp
  rw [hsplit, trim_eq_of_solid hleadblank hsolid htrailblank]

theorem trimStart_trimStart (t : Text) : trimStart (trimStart t) = trimStart t :=
  List.dropWhile_idempotent isBlank t

theorem trimEnd_trimEnd (t : Text) : trimEnd (trimEnd t) = trimEnd t :=
  List.rdropWhile_idempotent isBlank t

@[simp] theorem trim_trimStart (t : Text) : trim (trimStart t) = trim t := by
  obtain ⟨w, hw, hblank⟩ := exists_trimStart_eq t
  have hnil : allBlank [] = true := rfl
  conv_rhs => rw [hw]
  simpa using (trim_append_append hblank hnil (trimStart t)).symm

@[simp] theorem trim_trimEnd (t : Text) : trim (trimEnd t) = trim t := by
  obtain ⟨w, hw, hblank⟩ := exists_trimEnd_eq t
  have hnil : allBlank [] = true := rfl
  conv_rhs => rw [hw]
  simpa using (trim_append_append hnil hblank (trimEnd t)).symm

/-! ### Texts without white space -/

/-- No character of the text is white space. -/
def Unbroken (t : Text) : Prop := t.any isBlank = false

instance (t : Text) : Decidable (Unbroken t) :=
  inferInstanceAs (Decidable (t.any isBlank = false))

theorem unbroken_iff {t : Text} : Unbroken t ↔ ∀ c ∈ t, isBlank c = false := by
  simp [Unbroken]

theorem unbroken_append {t u : Text} : Unbroken (t ++ u) ↔ Unbroken t ∧ Unbroken u := by
  simp only [unbroken_iff, List.forall_mem_append]

theorem Unbroken.of_subset {t u : Text} (h : Unbroken t) (hsub : u ⊆ t) : Unbroken u :=
  unbroken_iff.2 fun c hc => unbroken_iff.1 h c (hsub hc)

/-! ### Solid texts -/

theorem Unbroken.solid {t : Text} (h : Unbroken t) (hne : t ≠ []) : Solid t := by
  rw [unbroken_iff] at h
  constructor
  · obtain ⟨c, rest, rfl⟩ := List.exists_cons_of_ne_nil hne
    exact ⟨c, rest, rfl, h c (by simp)⟩
  · refine ⟨t.dropLast, t.getLast hne, (List.dropLast_append_getLast hne).symm, ?_⟩
    exact h _ (List.getLast_mem hne)

/-- Two solid texts make a solid text, whatever stands between them. -/
theorem Solid.append {t u : Text} (ht : Solid t) (hu : Solid u) (mid : Text) :
    Solid (t ++ mid ++ u) := by
  obtain ⟨c, rest, rfl, hc⟩ := ht.head
  obtain ⟨rest', d, rfl, hd⟩ := hu.last
  exact ⟨⟨c, rest ++ mid ++ (rest' ++ [d]), by simp, hc⟩,
    ⟨c :: rest ++ mid ++ rest', d, by simp, hd⟩⟩

/-- Solid texts stay solid when they are joined. -/
theorem solid_intercalate (sep : Text) {ts : List Text} (hne : ts ≠ []) (h : ∀ t ∈ ts, Solid t) :
    Solid (sep.intercalate ts) := by
  induction ts with
  | nil => exact absurd rfl hne
  | cons t ts ih =>
    cases ts with
    | nil =>
      rw [List.intercalate_singleton]
      exact h t (by simp)
    | cons u ts =>
      rw [List.intercalate_cons_cons]
      exact (h t (by simp)).append (ih (by simp) fun v hv => h v (by simp [hv])) sep

/-! ### Deleting white space -/

/-- The text without its white space. -/
def bare (t : Text) : Text := t.filter fun c => !isBlank c

@[simp] theorem bare_nil : bare [] = [] := rfl

@[simp] theorem bare_append (t u : Text) : bare (t ++ u) = bare t ++ bare u :=
  List.filter_append t u

theorem bare_cons_of_isBlank {c : Char} (h : isBlank c = true) (t : Text) :
    bare (c :: t) = bare t := by
  simp [bare, h]

theorem bare_of_allBlank {t : Text} (h : allBlank t = true) : bare t = [] := by
  rw [bare, List.filter_eq_nil_iff]
  intro c hc
  simp [allBlank_eq_true_iff.1 h c hc]

/-- Trimming takes nothing but white space. -/
@[simp] theorem bare_trim (t : Text) : bare (trim t) = bare t := by
  rcases exists_core t with ht | ⟨lead, core, trail, rfl, hlead, htrail, hcore⟩
  · rw [trim_of_allBlank ht, bare_of_allBlank ht, bare_nil]
  · rw [trim_eq_of_solid hlead hcore htrail]
    simp [bare_of_allBlank hlead, bare_of_allBlank htrail]

theorem count_bare {c : Char} (h : isBlank c = false) (t : Text) :
    (bare t).count c = t.count c :=
  List.count_filter (by simp [h])

end ServiceCharter.Text

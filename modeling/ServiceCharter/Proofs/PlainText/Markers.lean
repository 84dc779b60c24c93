import ServiceCharter.Proofs.PlainText.Scan

/-!
# The markers of plain text

Headings, bullets and ordinals are markers with white space behind them (`findsMarkers_findHeading`,
`findsMarkers_findBullet`, `findsMarkers_findOrdinal`), and differ in where they are looked for and
in which characters they take. Bold spans have no white space of their own, but none reaches beyond
a line feed, so their delimiters are taken line by line (`withoutBold_append_newline`).

Whatever a pass takes belongs to a marker, and it puts nothing in its place but what it has found
there. So a document only loses characters of which markers are made, and white space, on its way to
plain text (`deletes_markers`).
-/

namespace ServiceCharter

namespace Text

/-! ### Digits and white space -/

/-- No character lies in two classes whose ranges lie apart. -/
theorem Ranges.has_eq_false_of_apart {rs rs' : Ranges}
    (h : ∀ r ∈ rs, ∀ r' ∈ rs', r.2 < r'.1 ∨ r'.2 < r.1) {c : Char} (hc : rs.has c = true) :
    rs'.has c = false := by
  rw [has, List.any_eq_true] at hc
  obtain ⟨r, hr, hin⟩ := hc
  simp only [Bool.and_eq_true, decide_eq_true_eq] at hin
  rw [has, List.any_eq_false]
  intro r' hr'
  simp only [Bool.and_eq_true, decide_eq_true_eq, not_and]
  rcases h r hr r' hr' with hlt | hlt <;> omega

/-- A decimal digit of any script is not white space. -/
theorem not_isBlank_of_isDecimalDigit {c : Char} (h : isDecimalDigit c = true) :
    isBlank c = false :=
  Ranges.has_eq_false_of_apart (by decide) h

end Text

namespace PlainText

open Text

/-! ### Headings, bullets and ordinals -/

/-- The text is an ordinal: decimal digits and a point. -/
def IsOrdinal (m : Text) : Prop :=
  ∃ ds, ds ≠ [] ∧ (∀ c ∈ ds, isDecimalDigit c = true) ∧ m = ds ++ ['.']

theorem findsMarkers_findHeading : FindsMarkers findHeading fun _ m => m = ['#', '#'] where
  ne_nil := by rintro b m rfl; simp
  unbroken := by rintro b m rfl; decide
  find_eq_some_iff := by
    intro b t hit
    constructor
    · intro h
      unfold findHeading at h
      split at h
      · obtain ⟨w, rest, rfl, hw, hblank, hrest, rfl⟩ := markerHit_eq_some_iff.1 h
        exact ⟨_, w, rest, rfl, rfl, hw, hblank, hrest, rfl⟩
      · cases h
    · rintro ⟨m, w, rest, rfl, rfl, hw, hblank, hrest, rfl⟩
      exact markerHit_eq_some_iff.2 ⟨w, rest, rfl, hw, hblank, hrest, rfl⟩

theorem findsMarkers_findBullet : FindsMarkers findBullet fun b m => b = true ∧ m = ['-'] where
  ne_nil := by rintro b m ⟨-, rfl⟩; simp
  unbroken := by rintro b m ⟨-, rfl⟩; decide
  find_eq_some_iff := by
    intro b t hit
    constructor
    · intro h
      unfold findBullet at h
      split at h
      · obtain ⟨w, rest, rfl, hw, hblank, hrest, rfl⟩ := markerHit_eq_some_iff.1 h
        exact ⟨['-'], w, rest, rfl, ⟨rfl, rfl⟩, hw, hblank, hrest, rfl⟩
      · cases h
    · rintro ⟨m, w, rest, rfl, ⟨rfl, rfl⟩, hw, hblank, hrest, rfl⟩
      exact markerHit_eq_some_iff.2 ⟨w, rest, rfl, hw, hblank, hrest, rfl⟩

theorem findsMarkers_findOrdinal : FindsMarkers findOrdinal fun b m => b = true ∧ IsOrdinal m where
  ne_nil := by rintro b m ⟨-, ds, -, -, rfl⟩; simp
  unbroken := by
    rintro b m ⟨-, ds, -, hds, rfl⟩
    have hdigits : Unbroken ds :=
      unbroken_iff.2 fun c hc => not_isBlank_of_isDecimalDigit (hds c hc)
    exact unbroken_append.2 ⟨hdigits, by decide⟩
  find_eq_some_iff := by
    intro b t hit
    cases b with
    | false => simp [findOrdinal]
    | true =>
      constructor
      · intro h
        unfold findOrdinal at h
        simp only at h
        split at h
        · next d ds rest hdigits hrest =>
          obtain ⟨w, rest, rfl, hw, hblank, hbare, rfl⟩ := markerHit_eq_some_iff.1 h
          have hmem : ∀ c ∈ d :: ds, isDecimalDigit c = true := fun c hc =>
            List.mem_takeWhile_imp (hdigits ▸ hc)
          have ht : t = (d :: ds) ++ '.' :: (w ++ rest) := by
            rw [← hdigits, ← hrest, List.takeWhile_append_dropWhile]
          refine ⟨(d :: ds) ++ ['.'], w, rest, by simp [ht], ⟨rfl, d :: ds, by simp, hmem, rfl⟩, hw,
            hblank, hbare, ?_⟩
          simp [hdigits]
        · cases h
      · rintro ⟨m, w, rest, rfl, ⟨-, ds, hne, hds, rfl⟩, hw, hblank, hrest, rfl⟩
        have hpoint : isDecimalDigit '.' = false := by decide
        have hshape : ds ++ ['.'] ++ (w ++ rest) = ds ++ '.' :: (w ++ rest) := by simp
        have htake : (ds ++ '.' :: (w ++ rest)).takeWhile isDecimalDigit = ds := by
          rw [List.takeWhile_append_of_pos hds]
          simp [hpoint]
        have hdrop : (ds ++ '.' :: (w ++ rest)).dropWhile isDecimalDigit = '.' :: (w ++ rest) := by
          rw [List.dropWhile_append_of_pos hds]
          simp [hpoint]
        obtain ⟨d, ds, rfl⟩ := List.exists_cons_of_ne_nil hne
        rw [hshape, findOrdinal]
        simp only [htake, hdrop]
        exact markerHit_eq_some_iff.2 ⟨w, rest, rfl, hw, hblank, hrest, by simp⟩

/-! ### Bold spans -/

private theorem eq_of_untilDelimiter? {t content : Text} (h : untilDelimiter? t = some content) :
    ∃ after, t = content ++ '*' :: '*' :: after := by
  induction t generalizing content with
  | nil => cases h
  | cons c t ih =>
    unfold untilDelimiter? at h
    split at h
    · next after =>
      cases h
      exact ⟨after, rfl⟩
    · split at h
      · cases h
      · obtain ⟨content', hcontent, rfl⟩ := Option.map_eq_some_iff.1 h
        obtain ⟨after, rfl⟩ := ih hcontent
        exact ⟨after, rfl⟩

/-- A bold span has two delimiters, and its content stays. -/
theorem eq_of_findBold {b : Bool} {t : Text} {hit : Hit} (h : findBold b t = some hit) :
    ∃ c content after, t = '*' :: '*' :: c :: (content ++ '*' :: '*' :: after) ∧
      hit = ⟨content.length + 4, c :: content⟩ := by
  unfold findBold at h
  split at h
  · next c rest =>
    split at h
    · cases h
    · obtain ⟨content, hcontent, rfl⟩ := Option.map_eq_some_iff.1 h
      obtain ⟨after, rfl⟩ := eq_of_untilDelimiter? hcontent
      exact ⟨c, content, after, rfl, rfl⟩
  · cases h

theorem untilDelimiter?_cons (c : Char) (t : Text) :
    untilDelimiter? (c :: t) =
      if c = '*' ∧ t.head? = some '*' then some []
      else if c = '\n' then none else (untilDelimiter? t).map (c :: ·) := by
  by_cases h : c = '*' ∧ t.head? = some '*'
  · obtain ⟨rfl, hhead⟩ := h
    obtain ⟨r, rfl⟩ := List.head?_eq_some_iff.1 hhead
    simp [untilDelimiter?]
  · rw [if_neg h, untilDelimiter?]
    rintro r rfl rfl
    exact h ⟨rfl, rfl⟩

/-- No span reaches beyond a line feed. -/
private theorem untilDelimiter?_append_newline (t u : Text) :
    untilDelimiter? (t ++ '\n' :: u) = untilDelimiter? t := by
  induction t with
  | nil => simp [untilDelimiter?]
  | cons c t ih =>
    have hhead : (t ++ '\n' :: u).head? = some '*' ↔ t.head? = some '*' := by
      cases t <;> simp
    simp only [List.cons_append, untilDelimiter?_cons, hhead, ih]

private theorem findBold_eq_none {b : Bool} {c d : Char} (h : ¬(c = '*' ∧ d = '*')) (t : Text) :
    findBold b (c :: d :: t) = none := by
  unfold findBold
  split
  · next heq =>
    simp only [List.cons.injEq] at heq
    exact absurd ⟨heq.1, heq.2.1⟩ h
  · rfl

private theorem fits_findBold : Fits findBold := by
  intro b t hit h
  obtain ⟨c, content, after, rfl, rfl⟩ := eq_of_findBold h
  simp only [List.length_cons, List.length_append]
  omega

/-- **Bold spans are unwrapped line by line.** -/
theorem withoutBold_append_newline (a u : Text) :
    withoutBold (a ++ '\n' :: u) = withoutBold a ++ '\n' :: withoutBold u := by
  have hsep : Separates findBold true a ('\n' :: u) := by
    rintro y x - hx
    generalize endsLine true y = b
    -- The finder looks at three characters, and then no further than the end of the line.
    match x, hx with
    | [a], _ => simp [findBold]
    | [c, d], _ =>
      by_cases h : c = '*' ∧ d = '*'
      · obtain ⟨rfl, rfl⟩ := h
        simp [findBold]
      · simp only [List.cons_append, findBold_eq_none h]
    | c :: d :: e :: rest, _ =>
      by_cases h : c = '*' ∧ d = '*'
      · obtain ⟨rfl, rfl⟩ := h
        simp only [List.cons_append, findBold, untilDelimiter?_append_newline]
      · simp only [List.cons_append, findBold_eq_none h]
  have hnewline : replaceFrom findBold 0 (endsLine true a) ('\n' :: u) = '\n' :: withoutBold u := by
    simp [replaceFrom, findBold, withoutBold, replaceAll]
  rw [withoutBold, replaceAll_append fits_findBold hsep, hnewline]
  rfl

/-! ### What the passes delete -/

private theorem deletes_withoutHeadings (t : Text) :
    Deletes (fun c => c == '#' || isBlank c) t (withoutHeadings t) := by
  refine findsMarkers_findHeading.deletes_replaceAll (fun c hc => by simp [hc]) ?_ t
  rintro b m rfl
  simp

/-- Unwrapping takes asterisks only. -/
theorem deletes_withoutBold (t : Text) : Deletes (· == '*') t (withoutBold t) := by
  refine deletes_replaceAll (fun b t hit h => ?_) t
  obtain ⟨c, content, after, rfl, rfl⟩ := eq_of_findBold h
  have hshape : '*' :: '*' :: c :: (content ++ '*' :: '*' :: after) =
      ['*', '*'] ++ (c :: content ++ ['*', '*']) ++ after := by simp
  have htake : ('*' :: '*' :: c :: (content ++ '*' :: '*' :: after)).take (content.length + 4 + 1) =
      ['*', '*'] ++ (c :: content ++ ['*', '*']) := by
    rw [hshape]
    exact List.take_left' (by simp)
  have hdelimiter : Deletes (· == '*') ['*', '*'] [] := .of_forall (by simp)
  have hspan := hdelimiter.append ((Deletes.refl _ (c :: content)).append hdelimiter)
  rw [List.nil_append, List.append_nil] at hspan
  rw [htake]
  exact hspan

theorem deletes_withoutBullets (t : Text) :
    Deletes (fun c => c == '-' || isBlank c) t (withoutBullets t) := by
  refine findsMarkers_findBullet.deletes_replaceAll (fun c hc => by simp [hc]) ?_ t
  rintro b m ⟨-, rfl⟩
  simp

theorem deletes_withoutOrdinals (t : Text) :
    Deletes (fun c => c == '.' || isDecimalDigit c || isBlank c) t (withoutOrdinals t) := by
  refine findsMarkers_findOrdinal.deletes_replaceAll (fun c hc => by simp [hc]) ?_ t
  rintro b m ⟨-, ds, -, hds, rfl⟩
  refine List.forall_mem_append.2 ⟨fun c hc => ?_, by simp⟩
  simp [hds c hc]

theorem count_withoutBold {c : Char} (hc : c ≠ '*') (t : Text) :
    (withoutBold t).count c = t.count c :=
  (deletes_withoutBold t).count_eq (by simpa using hc)

/-- Whether markers may hold `c`, or it is white space. -/
def isMarkerChar (c : Char) : Bool :=
  ['#', '*', '-', '.'].contains c || isDecimalDigit c || isBlank c

/-- **Plain text only loses markers.** Each pass, and with it the whole reduction, only deletes, and
only number signs, asterisks, hyphens, points, decimal digits and white space: every other character
stays what it is, where it is among the others. -/
theorem deletes_markers (t : Text) :
    Deletes isMarkerChar t (withoutHeadings t) ∧ Deletes isMarkerChar t (withoutBold t) ∧
      Deletes isMarkerChar t (withoutBullets t) ∧ Deletes isMarkerChar t (withoutOrdinals t) ∧
      Deletes isMarkerChar t (ofSource t) := by
  have hheadings : ∀ s, Deletes isMarkerChar s (withoutHeadings s) := fun s =>
    (deletes_withoutHeadings s).mono (by simp +contextual [isMarkerChar, or_imp])
  have hbold : ∀ s, Deletes isMarkerChar s (withoutBold s) := fun s =>
    (deletes_withoutBold s).mono (by simp [isMarkerChar])
  have hbullets : ∀ s, Deletes isMarkerChar s (withoutBullets s) := fun s =>
    (deletes_withoutBullets s).mono (by simp +contextual [isMarkerChar, or_imp])
  have hordinals : ∀ s, Deletes isMarkerChar s (withoutOrdinals s) := fun s =>
    (deletes_withoutOrdinals s).mono (by simp +contextual [isMarkerChar, or_imp])
  have htrim : ∀ s, Deletes isMarkerChar s (trim s) := fun s =>
    (deletes_trim s).mono (by simp +contextual [isMarkerChar])
  refine ⟨hheadings t, hbold t, hbullets t, hordinals t, ?_⟩
  exact ((((hheadings t).trans (hbold _)).trans (hbullets _)).trans (hordinals _)).trans (htrim _)

end PlainText

end ServiceCharter

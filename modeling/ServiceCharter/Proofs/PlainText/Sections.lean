import ServiceCharter.Proofs.Document.Sections
import ServiceCharter.Proofs.PlainText.Markers

/-!
# Plain text of a document

Markers are taken from the whole document at once, and a marker takes the white space behind it,
line feeds included. A marker without content at the end of a text therefore reaches into the
section behind it. `RunsOn` lists the ways in which that happens, and
`FieldValues.bare_plainText_compile_iff` says that nothing else can go wrong: up to white space, the
plain text of a document is that of its headings and its texts, each by itself, exactly if no text
runs on.

In one direction, the passes are followed over the empty line between two texts
(`bare_ofSource_append`). In the other, a text that runs on loses a number sign, a hyphen or a point
that it would keep by itself (`loses_of_runsOn`); as no pass ever puts one back, nothing makes up
for the loss.
-/

namespace ServiceCharter.PlainText

open Text

/-! ### Passes -/

/-- The text in which bullets are looked for. -/
def unwrapped (t : Text) : Text := withoutBold (withoutHeadings t)

private theorem ofSource_eq (t : Text) :
    ofSource t = trim (withoutOrdinals (withoutBullets (unwrapped t))) := rfl

private theorem count_withoutBullets {c : Char} (hc : isBlank c = false) (hne : c ≠ '-')
    (t : Text) :
    (withoutBullets t).count c = t.count c :=
  (deletes_withoutBullets t).count_eq (by simp [hc, hne])

private theorem count_withoutOrdinals {c : Char} (hc : isBlank c = false) (hne : c ≠ '.')
    (hdigit : isDecimalDigit c = false) (t : Text) :
    (withoutOrdinals t).count c = t.count c :=
  (deletes_withoutOrdinals t).count_eq (by simp [hc, hne, hdigit])

/-- Only the first pass takes number signs. -/
private theorem count_hash_ofSource (t : Text) :
    (ofSource t).count '#' = (withoutHeadings t).count '#' := by
  rw [ofSource_eq, ← count_bare (by decide) (trim _), bare_trim, count_bare (by decide),
    count_withoutOrdinals (by decide) (by decide) (by decide),
    count_withoutBullets (by decide) (by decide), unwrapped, count_withoutBold (by decide)]

/-- Only the pass for bullets, and none behind it, takes hyphens. -/
private theorem count_hyphen_ofSource (t : Text) :
    (ofSource t).count '-' = (withoutBullets (unwrapped t)).count '-' := by
  rw [ofSource_eq, ← count_bare (by decide) (trim _), bare_trim, count_bare (by decide),
    count_withoutOrdinals (by decide) (by decide) (by decide)]

private theorem count_point_ofSource (t : Text) :
    (ofSource t).count '.' = (withoutOrdinals (withoutBullets (unwrapped t))).count '.' := by
  rw [ofSource_eq, ← count_bare (by decide) (trim _), bare_trim, count_bare (by decide)]

/-! ### Texts that run on -/

/-- How plain text runs on from a text `s` into the text `r` behind the empty line after it: some
marker at the end of `s` has no content there, and takes the white space up to `r`. -/
inductive RunsOn (s r : Text) : Prop
  /-- The text ends with a heading marker. -/
  | heading {q} (hs : s = q ++ ['#', '#'])
  /-- The last line is a bullet. -/
  | bullet {q} (hs : unwrapped s = q ++ ['-']) (hq : endsLine true q = true)
  /-- The last line is an ordinal, once bullets have gone. -/
  | ordinal {q m} (hs : withoutBullets (unwrapped s) = q ++ m) (hq : endsLine true q = true)
      (hm : IsOrdinal m)
  /-- The last line is a bullet and white space, and what it takes has kept an ordinal in `r` from
  the start of a line. -/
  | exposed {q w lead m w' rest} (hs : unwrapped s = q ++ '-' :: w) (hq : endsLine true q = true)
      (hw : w ≠ []) (hblank : allBlank w = true)
      (hr : withoutBullets (unwrapped r) = lead ++ (m ++ (w' ++ rest)))
      (hlead : allBlank lead = true) (hline : endsLine true lead = false) (hm : IsOrdinal m)
      (hw' : w' ≠ []) (hblank' : allBlank w' = true)

/-- The text `t` holds fewer characters of markers than `u`: fewer number signs, or as many and
fewer hyphens, or as many of both and fewer points. -/
def Loses (t u : Text) : Prop :=
  t.count '#' < u.count '#' ∨ t.count '#' = u.count '#' ∧
    (t.count '-' < u.count '-' ∨ t.count '-' = u.count '-' ∧ t.count '.' < u.count '.')

/-! ### Two texts with an empty line between them -/

variable {s r : Text}

/-- A solid text that does not end with a heading marker keeps its headings to itself. -/
theorem withoutHeadings_append (hs : Solid s) (hopen : ∀ q, s ≠ q ++ ['#', '#']) (r : Text) :
    withoutHeadings (s ++ '\n' :: '\n' :: r) =
      withoutHeadings s ++ '\n' :: '\n' :: withoutHeadings r := by
  refine findsMarkers_findHeading.replaceAll_append_empty_line (fun y m w hsplit hm hw => ?_) r
  subst hm
  rcases w.eq_nil_or_concat' with rfl | ⟨w, c, rfl⟩
  · exact hopen y hsplit
  · -- A solid text does not end with white space.
    obtain ⟨t, d, hlast, hd⟩ := hs.last
    have hend : t ++ [d] = (y ++ (['#', '#'] ++ w)) ++ [c] := by
      rw [← hlast, hsplit]
      simp
    obtain ⟨-, rfl⟩ := List.append_singleton_inj.1 hend
    rw [allBlank_eq_true_iff.1 hw d (by simp)] at hd
    cases hd

/-- What stands before a heading marker is not read together with it. -/
private theorem separates_findHeading (b : Bool) (q u : Text) :
    Separates findHeading b q ('#' :: '#' :: u) := by
  rintro y x - hx
  generalize endsLine b y = b'
  have hbare : ∀ t, blankCount (t ++ '#' :: '#' :: u) = blankCount t := by
    intro t
    obtain ⟨w, rest, rfl, hw, hrest⟩ := exists_blank_append t
    have hnext : StartsBare ('#' :: '#' :: u) := by
      intro c r h
      rw [← (List.cons_eq_cons.1 h).1]
      decide
    rw [List.append_assoc, blankCount_append hw hrest,
      blankCount_append hw (hrest.append fun _ => hnext)]
  have hnone : ∀ {c d : Char} (t : Text), ¬(c = '#' ∧ d = '#') →
      findHeading b' (c :: d :: t) = none := by
    intro c d t h
    unfold findHeading
    split
    · next heq =>
      simp only [List.cons.injEq] at heq
      exact absurd ⟨heq.1, heq.2.1⟩ h
    · rfl
  match x, hx with
  | [c], _ =>
    by_cases hc : c = '#'
    · subst hc
      simp [findHeading, markerHit, blankCount, show isBlank '#' = false by decide]
    · rw [List.singleton_append, hnone _ fun h => hc h.1]
      simp [findHeading]
  | c :: d :: t, _ =>
    by_cases h : c = '#' ∧ d = '#'
    · obtain ⟨rfl, rfl⟩ := h
      simp only [List.cons_append, findHeading, markerHit, hbare]
    · rw [List.cons_append, List.cons_append, hnone _ h, hnone _ h]

/-- A heading marker at the end of a text goes only if something follows. -/
private theorem count_hash_lt (q r : Text) :
    (withoutHeadings (q ++ ['#', '#'] ++ '\n' :: '\n' :: r)).count '#' <
      (withoutHeadings (q ++ ['#', '#'])).count '#' + (withoutHeadings r).count '#' := by
  have hf := findsMarkers_findHeading
  obtain ⟨lead, rest, rfl, hlead, hrest⟩ := exists_blank_append r
  -- Headings stand anywhere in a line, so the seam lemma for line starts does not apply.
  have hall : withoutHeadings (q ++ ['#', '#'] ++ '\n' :: '\n' :: (lead ++ rest)) =
      withoutHeadings q ++ replaceFrom findHeading 0 (endsLine true lead) rest := by
    have hblank : allBlank ('\n' :: '\n' :: lead) = true := by
      simpa [allBlank, show isBlank '\n' = true by decide] using hlead
    have hmarker : replaceFrom findHeading 0 (endsLine true q)
        (['#', '#'] ++ ('\n' :: '\n' :: lead ++ rest)) = _ :=
      hf.replaceFrom_marker rfl (by simp) hblank hrest
    have happend := replaceAll_append hf.fits
      (separates_findHeading true q ('\n' :: '\n' :: (lead ++ rest)))
    rw [List.append_assoc]
    exact happend.trans (congrArg (replaceAll findHeading q ++ ·) hmarker)
  have halone : withoutHeadings (q ++ ['#', '#']) = withoutHeadings q ++ ['#', '#'] := by
    rw [withoutHeadings, replaceAll_append hf.fits (separates_findHeading _ _ _),
      hf.replaceFrom_of_unbroken _ (by decide)]
    rfl
  have hnext : withoutHeadings (lead ++ rest) =
      lead ++ replaceFrom findHeading 0 (endsLine true lead) rest :=
    hf.replaceAll_blank_append hlead rest
  rw [hall, halone, hnext]
  simp only [List.count_append]
  have htwo : List.count '#' ['#', '#'] = 2 := by decide
  omega

/-- A solid text that does not end with a heading marker is unwrapped by itself. -/
theorem unwrapped_append (hs : Solid s) (hopen : ∀ q, s ≠ q ++ ['#', '#']) (r : Text) :
    unwrapped (s ++ '\n' :: '\n' :: r) = unwrapped s ++ '\n' :: '\n' :: unwrapped r := by
  have hempty : ∀ t, withoutBold ('\n' :: t) = '\n' :: withoutBold t := fun t =>
    withoutBold_append_newline [] t
  rw [unwrapped, withoutHeadings_append hs hopen, withoutBold_append_newline, hempty]
  rfl

/-- Without an open ordinal at its end, a text keeps its ordinals to itself, up to white space. -/
private theorem bare_withoutOrdinals_append {v : Text}
    (hopen : ∀ q m, v = q ++ m → endsLine true q = true → ¬IsOrdinal m) (v' : Text) :
    bare (withoutOrdinals (v ++ '\n' :: '\n' :: v')) =
      bare (withoutOrdinals v) ++ bare (withoutOrdinals v') := by
  have hf := findsMarkers_findOrdinal
  rcases hf.replaceAll_seam (by simp) v v' with
    hclosed | ⟨q, m, w, lead, z, rfl, hq, hm, hw, hlead, -, hnext, hall⟩
  · have hblank : ∀ t, bare ('\n' :: '\n' :: t) = bare t := fun t => by
      rw [bare_cons_of_isBlank (by decide), bare_cons_of_isBlank (by decide)]
    rw [withoutOrdinals, hclosed, bare_append, hblank]
    rfl
  · have hne : w ≠ [] := by
      rintro rfl
      exact hopen q m (by simp) hq hm.2
    rw [withoutOrdinals, hall, withoutOrdinals, hf.replaceAll_open hq hm hne hw, withoutOrdinals,
      hnext, bare_append, bare_append, bare_of_allBlank hlead, List.nil_append]

/-- **Where a text does not run on, its plain text ends**, and that of what follows it begins. -/
theorem bare_ofSource_append (hs : Solid s) (h : ¬RunsOn s r) :
    bare (ofSource (s ++ '\n' :: '\n' :: r)) = bare (ofSource s) ++ bare (ofSource r) := by
  have hbullets := findsMarkers_findBullet
  have hordinals := findsMarkers_findOrdinal
  have hunwrapped := unwrapped_append hs (fun q hq => h (.heading hq)) r
  simp only [ofSource_eq, bare_trim, hunwrapped]
  rcases hbullets.replaceAll_seam (by simp) (unwrapped s) (unwrapped r) with
    hclosed | ⟨q, m, w, lead, z, hp, hq, ⟨-, rfl⟩, hw, hlead, hz, hnext, hall⟩
  · rw [withoutBullets, hclosed]
    exact bare_withoutOrdinals_append (fun q m hv hq hm => h (.ordinal hv hq hm)) _
  · have hne : w ≠ [] := by
      rintro rfl
      exact h (.bullet hp hq)
    -- The bullet takes the white space `lead`, so that what follows it comes to a line start.
    have hsame : replaceFrom findOrdinal 0 true z =
        replaceFrom findOrdinal 0 (endsLine true lead) z := by
      cases hline : endsLine true lead with
      | true => rfl
      | false =>
        cases z with
        | nil => rfl
        | cons c t =>
          have hnone : findOrdinal true (c :: t) = none := by
            refine Option.eq_none_iff_forall_ne_some.2 fun hit hfind => ?_
            obtain ⟨m, w', rest, hsplit, ⟨-, hm⟩, hw', hblank', -⟩ :=
              hordinals.find_eq_some_iff.1 hfind
            exact h (.exposed hp hq hne hw (hsplit ▸ hnext) hlead hline hm hw' hblank')
          rw [replaceFrom, replaceFrom, hnone]
          rfl
    have hv := hbullets.endsLine_replaceAll (by simp) hq
    have halone : withoutBullets (unwrapped s) = withoutBullets q := by
      rw [hp]
      exact hbullets.replaceAll_open hq ⟨rfl, rfl⟩ hne hw
    rw [halone, withoutBullets, hall, withoutBullets, withoutBullets, hnext, withoutOrdinals,
      hordinals.replaceAll_append_startsBare hv hz, withoutOrdinals, withoutOrdinals,
      hordinals.replaceAll_blank_append hlead, bare_append, bare_append, bare_of_allBlank hlead,
      hsame, List.nil_append]

/-- Without an open bullet at its end, a text keeps its hyphens. -/
private theorem count_hyphen_append {p : Text}
    (hopen : ∀ q, p = q ++ ['-'] → endsLine true q = true → False) (p' : Text) :
    (withoutBullets (p ++ '\n' :: '\n' :: p')).count '-' =
      (withoutBullets p).count '-' + (withoutBullets p').count '-' := by
  have hf := findsMarkers_findBullet
  rcases hf.replaceAll_seam (by simp) p p' with
    hclosed | ⟨q, m, w, lead, z, rfl, hq, ⟨-, rfl⟩, hw, hlead, -, hnext, hall⟩
  · rw [withoutBullets, hclosed]
    simp [withoutBullets]
  · have hne : w ≠ [] := by
      rintro rfl
      exact hopen q (by simp) hq
    have hzero : lead.count '-' = 0 := by
      rw [← count_bare (by decide), bare_of_allBlank hlead]
      rfl
    rw [withoutBullets, hall, withoutBullets, hf.replaceAll_open hq ⟨rfl, rfl⟩ hne hw,
      withoutBullets, hnext]
    simp only [List.count_append, hzero, Nat.zero_add]

/-- A text whose last line is an ordinal does not end a line. -/
private theorem endsLine_append_ordinal (q : Text) {m : Text} (hm : IsOrdinal m) :
    endsLine true (q ++ m) = false := by
  obtain ⟨ds, -, -, rfl⟩ := hm
  rw [← List.append_assoc, endsLine_append]
  rfl

private theorem point_mem {m : Text} (hm : IsOrdinal m) : '.' ∈ m := by
  obtain ⟨ds, -, -, rfl⟩ := hm
  simp

private theorem newline_notMem {m : Text} (hm : IsOrdinal m) : '\n' ∉ m := by
  intro hmem
  have hbare := unbroken_iff.1 (findsMarkers_findOrdinal.unbroken ⟨rfl, hm⟩) '\n' hmem
  revert hbare
  decide

/-- An ordinal that comes to the start of a line goes. -/
private theorem count_point_exposed {m w rest : Text} (hm : IsOrdinal m) (hw : w ≠ [])
    (hblank : allBlank w = true) :
    (replaceFrom findOrdinal 0 true (m ++ (w ++ rest))).count '.' <
      (replaceFrom findOrdinal 0 false (m ++ (w ++ rest))).count '.' := by
  have hf := findsMarkers_findOrdinal
  obtain ⟨w', rest, rfl, hw', hrest⟩ := exists_blank_append rest
  have hall : allBlank (w ++ w') = true := by rw [allBlank_append, hblank, hw']; rfl
  have hne : w ++ w' ≠ [] := by simp [hw]
  have hpos := List.count_pos_iff.2 (point_mem hm)
  rw [← List.append_assoc w, hf.replaceFrom_marker ⟨rfl, hm⟩ hne hall hrest,
    hf.replaceFrom_false_append (by simp) (newline_notMem hm),
    hf.replaceFrom_blank_append false hall, endsLine_of_ne_nil hne false true]
  simp only [List.count_append]
  omega

/-- An ordinal at the end of a text goes, if bullets do not reach beyond that end. -/
private theorem count_point_ordinal_lt {p q m : Text}
    (hopen : ∀ q, p = q ++ ['-'] → endsLine true q = true → False)
    (hv : withoutBullets p = q ++ m) (hq : endsLine true q = true) (hm : IsOrdinal m) (p' : Text) :
    (withoutOrdinals (withoutBullets (p ++ '\n' :: '\n' :: p'))).count '.' <
      (withoutOrdinals (withoutBullets p)).count '.' +
        (withoutOrdinals (withoutBullets p')).count '.' := by
  have hbullets := findsMarkers_findBullet
  rcases hbullets.replaceAll_seam (by simp) p p' with
    hseam | ⟨q', m', w, -, -, hp, hq', ⟨-, rfl⟩, hw, -⟩
  · have hall : withoutBullets (p ++ '\n' :: '\n' :: p') =
        q ++ m ++ '\n' :: '\n' :: withoutBullets p' := hv ▸ hseam
    rw [hall, hv]
    exact findsMarkers_findOrdinal.count_open_lt hq ⟨rfl, hm⟩ (point_mem hm) _
  · -- Behind a bullet that goes, the text ends with a line feed, and not with an ordinal.
    have hne : w ≠ [] := by
      rintro rfl
      exact hopen q' hp hq'
    have halone : withoutBullets p = withoutBullets q' :=
      hp ▸ hbullets.replaceAll_open hq' ⟨rfl, rfl⟩ hne hw
    have hline : endsLine true (withoutBullets q') = true :=
      hbullets.endsLine_replaceAll (by simp) hq'
    rw [← halone, hv, endsLine_append_ordinal q hm] at hline
    cases hline

/-- An ordinal goes that a bullet before it brings to the start of a line. -/
private theorem count_point_exposed_lt {p' q w lead m w' rest : Text} (hq : endsLine true q = true)
    (hw : w ≠ []) (hblank : allBlank w = true)
    (hr : withoutBullets p' = lead ++ (m ++ (w' ++ rest))) (hlead : allBlank lead = true)
    (hline : endsLine true lead = false) (hm : IsOrdinal m) (hw' : w' ≠ [])
    (hblank' : allBlank w' = true) :
    (withoutOrdinals (withoutBullets (q ++ '-' :: w ++ '\n' :: '\n' :: p'))).count '.' <
      (withoutOrdinals (withoutBullets (q ++ '-' :: w))).count '.' +
        (withoutOrdinals (withoutBullets p')).count '.' := by
  have hbullets := findsMarkers_findBullet
  have hordinals := findsMarkers_findOrdinal
  obtain ⟨lead', next, rfl, hlead', hnext⟩ := exists_blank_append p'
  have hbare : StartsBare (m ++ (w' ++ rest)) := hordinals.startsBare_marker ⟨rfl, hm⟩ _
  -- Behind the white space that the bullet takes, the ordinal is the first thing that is left.
  have hlead_next := hr
  rw [withoutBullets, hbullets.replaceAll_blank_append hlead'] at hlead_next
  obtain ⟨rfl, hz⟩ := blank_append_inj hlead' hlead
    (hbullets.startsBare_replaceFrom _ hnext) hbare hlead_next
  have hall : withoutBullets (q ++ '-' :: w ++ '\n' :: '\n' :: (lead' ++ next)) =
      withoutBullets q ++ (m ++ (w' ++ rest)) :=
    hz ▸ hbullets.replaceAll_open_append hq ⟨rfl, rfl⟩ hblank hlead' hnext
  have halone : withoutBullets (q ++ '-' :: w) = withoutBullets q :=
    hbullets.replaceAll_open hq ⟨rfl, rfl⟩ hw hblank
  have hend : endsLine true (withoutBullets q) = true := hbullets.endsLine_replaceAll (by simp) hq
  have hexposed : (replaceFrom findOrdinal 0 true (m ++ (w' ++ rest))).count '.' < _ :=
    count_point_exposed hm hw' hblank'
  rw [hall, halone, hr, withoutOrdinals, hordinals.replaceAll_append_startsBare hend hbare,
    withoutOrdinals, withoutOrdinals, hordinals.replaceAll_blank_append hlead', hline]
  simp only [List.count_append]
  omega

/-- **Where a text runs on, some character of a marker is lost.** -/
theorem loses_of_runsOn (hs : Solid s) (h : RunsOn s r) :
    Loses (bare (ofSource (s ++ '\n' :: '\n' :: r))) (bare (ofSource s) ++ bare (ofSource r)) := by
  have hhash : isBlank '#' = false := by decide
  have hhyphen : isBlank '-' = false := by decide
  have hpoint : isBlank '.' = false := by decide
  simp only [Loses, List.count_append, count_bare hhash, count_bare hhyphen, count_bare hpoint,
    count_hash_ofSource, count_hyphen_ofSource, count_point_ofSource]
  -- The first pass that loses something decides; up to there, pieces are replaced by themselves.
  by_cases hheading : ∃ q, s = q ++ ['#', '#']
  · obtain ⟨q, rfl⟩ := hheading
    exact Or.inl (count_hash_lt q r)
  have hclosed : ∀ q, s ≠ q ++ ['#', '#'] := fun q hq => hheading ⟨q, hq⟩
  refine Or.inr ⟨by rw [withoutHeadings_append hs hclosed]; simp, ?_⟩
  rw [unwrapped_append hs hclosed]
  by_cases hbullet : ∃ q, unwrapped s = q ++ ['-'] ∧ endsLine true q = true
  · obtain ⟨q, hq, hline⟩ := hbullet
    rw [hq]
    exact Or.inl (findsMarkers_findBullet.count_open_lt hline ⟨rfl, rfl⟩ (by simp) _)
  have hopen : ∀ q, unwrapped s = q ++ ['-'] → endsLine true q = true → False :=
    fun q hq hline => hbullet ⟨q, hq, hline⟩
  refine Or.inr ⟨count_hyphen_append hopen _, ?_⟩
  cases h with
  | heading hq => exact absurd hq (hclosed _)
  | bullet hq hline => exact absurd hline (hopen _ hq)
  | ordinal hv hq hm => exact count_point_ordinal_lt hopen hv hq hm _
  | exposed hp hq hw hblank hr hlead hline hm hw' hblank' =>
    rw [hp]
    exact count_point_exposed_lt hq hw hblank hr hlead hline hm hw' hblank'

theorem Loses.append_left {t u : Text} (h : Loses t u) (a : Text) : Loses (a ++ t) (a ++ u) := by
  simp only [Loses, List.count_append] at h ⊢
  omega

theorem Loses.trans {t u v : Text} (h : Loses t u) (h' : Loses u v) : Loses t v := by
  simp only [Loses] at h h' ⊢
  omega

theorem Loses.irrefl (t : Text) : ¬Loses t t := by
  simp only [Loses]
  omega

end ServiceCharter.PlainText

namespace ServiceCharter

open Text PlainText

/-! ### Documents -/

/-- The heading of a field without its white space; a verbatim field has none. -/
def Field.headingText (f : Field) : Text := if f.isVerbatim then [] else bare f.title.toList

/-- No marker stands at the end of a title. -/
private theorem Field.getLast?_title (f : Field) :
    f.title.toList.getLast? ∉ [some '#', some '-', some '.'] := by
  cases f <;> decide

private theorem Field.unwrapped_headingLine (f : Field) :
    unwrapped f.headingLine = f.title.toList ∧ withoutBullets f.title.toList = f.title.toList ∧
      bare (ofSource f.headingLine) = bare f.title.toList := by
  cases f <;> decide

/-- A heading line does not run on. -/
theorem Field.not_runsOn_headingLine (f : Field) (r : Text) : ¬RunsOn f.headingLine r := by
  obtain ⟨hunwrapped, hbullets, -⟩ := f.unwrapped_headingLine
  have hlast := f.getLast?_title
  -- Each way of running on asks for a marker, or white space, at the end of the title.
  intro h
  cases h with
  | heading hs =>
    have hend := congrArg List.getLast? hs
    obtain ⟨rest, c, htitle, -⟩ := f.solid_title.last
    rw [headingLine, htitle, ← List.append_assoc, List.getLast?_concat] at hend
    rw [htitle, List.getLast?_concat, hend] at hlast
    simp at hlast
  | bullet hs _ =>
    rw [hunwrapped] at hs
    simp [hs] at hlast
  | ordinal hs _ hm =>
    obtain ⟨ds, -, -, rfl⟩ := hm
    rw [hunwrapped, hbullets] at hs
    simp [hs] at hlast
  | exposed hs _ hw hblank =>
    obtain ⟨w, c, rfl⟩ := (List.eq_nil_or_concat' _).resolve_left hw
    obtain ⟨rest, d, htitle, hd⟩ := f.solid_title.last
    rw [hunwrapped, htitle, ← List.cons_append, ← List.append_assoc] at hs
    obtain ⟨-, rfl⟩ := List.append_singleton_inj.1 hs
    rw [allBlank_eq_true_iff.1 hblank d (by simp)] at hd
    cases hd

/-- The plain text of a section is that of its heading and its text. -/
theorem Field.bare_ofSource_section (f : Field) (t : Text) :
    bare (ofSource (f.section t)) = f.headingText ++ bare (ofSource t) := by
  -- The heading line is itself a text with an empty line behind it.
  rcases Bool.eq_false_or_eq_true f.isVerbatim with hv | hv
  · simp [section_of_isVerbatim hv, headingText, hv]
  · have hshape : f.section t = f.headingLine ++ '\n' :: '\n' :: t := by
      simp [section_of_not_isVerbatim hv]
    rw [hshape, bare_ofSource_append f.solid_headingLine (f.not_runsOn_headingLine t),
      f.unwrapped_headingLine.2.2, headingText, hv]
    rfl

namespace FieldValues

/-- No text of the given fields runs on into the sections that follow it. -/
def KeepsApart (values : FieldValues) (fields : List Field) : Prop :=
  ∀ pre f post t, fields = pre ++ f :: post → values.text? f = some t →
    values.sectionsOf post ≠ [] → ¬RunsOn t (['\n', '\n'].intercalate (values.sectionsOf post))

private theorem keepsApart_cons_iff {values : FieldValues} {f : Field} {fields : List Field} :
    values.KeepsApart (f :: fields) ↔
      (∀ t, values.text? f = some t → values.sectionsOf fields ≠ [] →
        ¬RunsOn t (['\n', '\n'].intercalate (values.sectionsOf fields))) ∧
      values.KeepsApart fields := by
  constructor
  · exact fun h => ⟨fun t => h [] f fields t rfl, fun pre g post t hsplit =>
      h (f :: pre) g post t (congrArg (f :: ·) hsplit)⟩
  · rintro ⟨hhere, hrest⟩ pre g post t hsplit
    cases pre with
    | nil =>
      obtain ⟨rfl, rfl⟩ := List.cons_eq_cons.1 hsplit
      exact hhere t
    | cons g' pre => exact hrest pre g post t (List.cons_eq_cons.1 hsplit).2

/-- What the given fields show as plain text, each by itself: its heading, and the plain text of its
text, without white space. -/
def shownTexts (values : FieldValues) (fields : List Field) : Text :=
  values.overTexts fields fun f t => f.headingText ++ bare (ofSource t)

/-- A section and the sections behind it. -/
private theorem bare_ofSource_cons (values : FieldValues) {t : Text} (ht : Solid t) (f : Field)
    (fields : List Field) :
    ((values.sectionsOf fields ≠ [] →
        ¬RunsOn t (['\n', '\n'].intercalate (values.sectionsOf fields))) →
      bare (ofSource (['\n', '\n'].intercalate (f.section t :: values.sectionsOf fields))) =
        f.headingText ++ bare (ofSource t) ++
          bare (ofSource (['\n', '\n'].intercalate (values.sectionsOf fields)))) ∧
    (¬(values.sectionsOf fields ≠ [] →
        ¬RunsOn t (['\n', '\n'].intercalate (values.sectionsOf fields))) →
      Loses (bare (ofSource (['\n', '\n'].intercalate (f.section t :: values.sectionsOf fields))))
        (f.headingText ++ bare (ofSource t) ++
          bare (ofSource (['\n', '\n'].intercalate (values.sectionsOf fields))))) := by
  rcases eq_or_ne (values.sectionsOf fields) [] with hnil | hne
  · rw [hnil, List.intercalate_singleton, f.bare_ofSource_section]
    refine ⟨fun _ => ?_, fun h => absurd (fun hne => absurd rfl hne) h⟩
    rw [List.intercalate_nil]
    exact (List.append_nil _).symm
  · generalize hr : ['\n', '\n'].intercalate (values.sectionsOf fields) = r
    have hshape : ['\n', '\n'].intercalate (f.section t :: values.sectionsOf fields) =
        f.section (t ++ '\n' :: '\n' :: r) := by
      rw [List.intercalate_cons_of_ne_nil hne, hr, Field.section, Field.section]
      split <;> simp
    rw [hshape, f.bare_ofSource_section, List.append_assoc]
    refine ⟨fun h => by rw [bare_ofSource_append ht (h hne)], fun h => ?_⟩
    have hruns : RunsOn t r := by
      by_contra hnot
      exact h fun _ => hnot
    exact (loses_of_runsOn ht hruns).append_left _

/-- The sections of some fields show what the fields show, or lose some character of a marker. -/
private theorem bare_ofSource_sections (values : FieldValues) (fields : List Field) :
    (values.KeepsApart fields →
      bare (ofSource (['\n', '\n'].intercalate (values.sectionsOf fields))) =
        values.shownTexts fields) ∧
    (¬values.KeepsApart fields →
      Loses (bare (ofSource (['\n', '\n'].intercalate (values.sectionsOf fields))))
        (values.shownTexts fields)) := by
  induction fields with
  | nil => exact ⟨fun _ => rfl, fun h => absurd (fun pre _ _ _ hsplit => by simp at hsplit) h⟩
  | cons f fields ih =>
    rw [keepsApart_cons_iff]
    cases ht : values.text? f with
    | none =>
      have hshown : values.shownTexts (f :: fields) = values.shownTexts fields :=
        overTexts_cons_of_none ht fields
      rw [sectionsOf_cons_of_none ht, hshown]
      simpa using ih
    | some t =>
      have hshown : values.shownTexts (f :: fields) =
          f.headingText ++ bare (ofSource t) ++ values.shownTexts fields :=
        overTexts_cons_of_some ht fields
      obtain ⟨hsame, hloses⟩ := values.bare_ofSource_cons (solid_of_text? ht) f fields
      rw [sectionsOf_cons_of_some ht, hshown]
      refine ⟨fun ⟨hhere, hrest⟩ => by rw [hsame (hhere t rfl), ih.1 hrest], fun hnot => ?_⟩
      by_cases hhere : values.sectionsOf fields ≠ [] →
          ¬RunsOn t (['\n', '\n'].intercalate (values.sectionsOf fields))
      · have hrest : ¬values.KeepsApart fields := fun hrest =>
          hnot ⟨fun t' ht' => Option.some.inj ht' ▸ hhere, hrest⟩
        rw [hsame hhere]
        exact (ih.2 hrest).append_left _
      · -- What is lost here is not made up for by the sections behind.
        by_cases hrest : values.KeepsApart fields
        · rw [← ih.1 hrest]
          exact hloses hhere
        · exact (hloses hhere).trans ((ih.2 hrest).append_left _)

/-- **The plain text of a document shows, for each section, the heading and what the field alone
shows, exactly if no text runs on into the sections behind it.** -/
theorem bare_plainText_compile_iff (values : FieldValues) :
    bare values.compile.plainText = values.shownTexts Field.all ↔ values.KeepsApart Field.all := by
  obtain ⟨hsame, hloses⟩ := values.bare_ofSource_sections Field.all
  rw [Document.plainText, compile_source]
  constructor
  · intro h
    by_contra hnot
    exact Loses.irrefl _ (h ▸ hloses hnot)
  · exact hsame

/-- A hyphen for want of a price stays if nothing follows, and goes with the empty line behind it if
another section does. -/
theorem plainText_of_lone_hyphen :
    bare (⟨[("custo", .string "-")]⟩ : FieldValues).compile.plainText = "Custo-".toList ∧
    (⟨[("canais_digitais", .string "App"), ("custo", .string "-")]⟩ :
      FieldValues).compile.plainText = "Custo\n\nCanais digitais\n\nApp".toList ∧
    bare (⟨[("canais_digitais", .string "App"), ("custo", .string "-")]⟩ :
      FieldValues).compile.plainText ≠
      (⟨[("canais_digitais", .string "App"), ("custo", .string "-")]⟩ :
        FieldValues).shownTexts Field.all := by
  refine ⟨?_, ?_, ?_⟩ <;> decide +kernel

end FieldValues

end ServiceCharter

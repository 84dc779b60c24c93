import ServiceCharter.Proofs.Markup.Contents
import ServiceCharter.Proofs.PlainText.Markers

/-!
# Markers of items, read and stripped

The marker of a list item is looked for twice. A stage of reading makes a line an item if it begins
with a marker, white space and some content; a pass of plain text strips a marker at the start of a
line, with the white space behind it. On a line that is more than a bare marker, the two do the same
whenever they have the same markers (`replaceAll_eq_content_iff`). They have the same bullets. But
the digits of an ordinal are those of any script for the pass, and those from `0` to `9` for the
stage, so an ordinal with another digit is stripped from a line that is shown as it stands
(`stripped_iff_item`).
-/

namespace ServiceCharter.PlainText

open Text Markup

/-! ### Lines in front of a pass -/

section Line

variable {find : Finder} {IsMark : Text → Prop} {l m w rest : Text}

/-- White space behind a mark shows where the mark ends. -/
theorem FindsMarkers.mark_unique (hf : FindsMarkers find fun b m => b = true ∧ IsMark m)
    {m' w' rest' : Text} (hm : IsMark m) (hm' : IsMark m') (hw : w ≠ []) (hw' : w' ≠ [])
    (hblank : allBlank w = true) (hblank' : allBlank w' = true)
    (h : m ++ (w ++ rest) = m' ++ (w' ++ rest')) : m = m' := by
  have hend : ∀ {m w : Text} (rest : Text), IsMark m → w ≠ [] → allBlank w = true →
      (m ++ (w ++ rest)).takeWhile (fun c => !isBlank c) = m := by
    intro m w rest hm hw hblank
    obtain ⟨c, w, rfl⟩ := List.exists_cons_of_ne_nil hw
    have hc := allBlank_eq_true_iff.1 hblank c List.mem_cons_self
    have hunbroken : ∀ d ∈ m, (!isBlank d) = true := fun d hd => by
      simp [unbroken_iff.1 (hf.unbroken (b := true) ⟨rfl, hm⟩) d hd]
    rw [List.takeWhile_append_of_pos hunbroken]
    simp [hc]
  rw [← hend rest hm hw hblank, h, hend rest' hm' hw' hblank']

/-- A mark at the head of a line is stripped, with the white space behind it. -/
theorem FindsMarkers.replaceAll_of_mark (hf : FindsMarkers find fun b m => b = true ∧ IsMark m)
    (hline : '\n' ∉ m ++ (w ++ rest)) (hm : IsMark m) (hw : w ≠ []) (hblank : allBlank w = true)
    (hrest : StartsBare rest) : replaceAll find (m ++ (w ++ rest)) = rest := by
  simp only [List.mem_append, not_or] at hline
  have hkeep := hf.replaceFrom_false_append (by simp) hline.2.2 []
  rw [List.append_nil] at hkeep
  rw [replaceAll, hf.replaceFrom_marker ⟨rfl, hm⟩ hw hblank hrest, endsLine_of_ne_nil hw true false,
    endsLine_false_of_newline_notMem hline.2.1, hkeep]
  exact List.append_nil rest

/-- A line without a mark at its head stays. -/
theorem FindsMarkers.replaceAll_of_line (hf : FindsMarkers find fun b m => b = true ∧ IsMark m)
    (hline : '\n' ∉ l)
    (h : ∀ m w rest, l = m ++ (w ++ rest) → IsMark m → allBlank w = true → w = []) :
    replaceAll find l = l := by
  refine replaceFrom_of_none fun y x hyx _ => ?_
  refine Option.eq_none_iff_forall_ne_some.2 fun hit hhit => ?_
  obtain ⟨m, w, rest, rfl, ⟨hstart, hm⟩, hw, hblank, -⟩ := hf.find_eq_some_iff.1 hhit
  -- The only line start of a line is its head.
  have hy : '\n' ∉ y := fun hmem => hline (hyx ▸ List.mem_append_left _ hmem)
  rcases eq_or_ne y [] with rfl | hne
  · exact hw (h m w rest hyx hm hblank)
  · rw [endsLine_of_ne_nil hne true false, endsLine_false_of_newline_notMem hy] at hstart
    cases hstart

end Line

/-! ### Two readers of one marker -/

/-- The line is the marker of an item with white space behind it, and nothing else. -/
def IsBareMarker (l : Text) : Prop :=
  ∃ (marker : Marker) (m w : Text), marker.Spells m ∧ l = m ++ w ∧ w ≠ [] ∧ allBlank w = true

private theorem not_isBareMarker_of_endsBare {l : Text} (h : endsBare l = true) :
    ¬IsBareMarker l := by
  rintro ⟨marker, m, w, -, rfl, hw, hblank⟩
  obtain ⟨rest, c, hlast, hc⟩ := endsBare_iff.1 h
  obtain ⟨w, d, rfl⟩ := w.eq_nil_or_concat'.resolve_left hw
  rw [← List.append_assoc] at hlast
  obtain rfl : d = c := by simpa using (List.append_inj' hlast rfl).2
  rw [allBlank_eq_true_iff.1 hblank d (by simp)] at hc
  cases hc

/-- **A pass strips what a stage makes an item**, on a line that is no bare marker, unless the line
begins with a mark that the pass takes for a marker and the stage does not. -/
theorem replaceAll_eq_content_iff {find : Finder} {IsMark : Text → Prop} {marker : Marker}
    {content? : Text → Option Text} (hf : FindsMarkers find fun b m => b = true ∧ IsMark m)
    (hmarks : ∀ m, marker.Spells m → IsMark m)
    (hcontent : ∀ {l content}, content? l = some content ↔
      ∃ m u, l = m ++ u ∧ marker.Spells m ∧ contentAfter? u = some content)
    {l : Text} (hline : '\n' ∉ l) (hbare : ¬IsBareMarker l) :
    replaceAll find l = (content? l).getD l ↔
      ∀ m w rest, l = m ++ (w ++ rest) → IsMark m → w ≠ [] → allBlank w = true →
        marker.Spells m := by
  -- What the pass strips, and what is content for the stage, begins where white space ends.
  have hgap : ∀ {m w rest : Text}, l = m ++ (w ++ rest) → w ≠ [] → allBlank w = true →
      ∃ w' rest', l = m ++ (w' ++ rest') ∧ w' ≠ [] ∧ allBlank w' = true ∧ StartsBare rest' := by
    rintro m w rest rfl hw hblank
    obtain ⟨w', rest, rfl, hblank', hrest⟩ := exists_blank_append rest
    have hboth : allBlank (w ++ w') = true := by
      rw [allBlank_append, hblank, hblank']
      rfl
    exact ⟨w ++ w', rest, by simp, by simp [hw], hboth, hrest⟩
  constructor
  · intro hstrip m w rest hl hm hw hblank
    obtain ⟨w, rest, rfl, hw, hblank, hrest⟩ := hgap hl hw hblank
    rw [hf.replaceAll_of_mark hline hm hw hblank hrest] at hstrip
    cases hread : content? (m ++ (w ++ rest)) with
    | none =>
      have hlen := congrArg List.length hstrip
      have hpos := List.length_pos_iff.2 hw
      rw [hread, Option.getD_none, List.length_append, List.length_append] at hlen
      omega
    | some content =>
      obtain ⟨m', u, hsplit, hm', hafter⟩ := hcontent.1 hread
      obtain ⟨w', rfl, hw', hblank', -⟩ := contentAfter?_eq_some_iff.1 hafter
      obtain rfl := hf.mark_unique hm (hmarks m' hm') hw hw' hblank hblank' hsplit
      exact hm'
  · intro hspells
    cases hread : content? l with
    | some content =>
      obtain ⟨m, u, rfl, hm, hafter⟩ := hcontent.1 hread
      obtain ⟨w, rfl, hw, hblank, hcontentBare⟩ := contentAfter?_eq_some_iff.1 hafter
      obtain ⟨c, t, rfl, hc⟩ := beginsBare_iff.1 hcontentBare
      refine hf.replaceAll_of_mark hline (hmarks m hm) hw hblank fun d r hdr => ?_
      rwa [← (List.cons_eq_cons.1 hdr).1]
    | none =>
      refine hf.replaceAll_of_line hline fun m w rest hl hm hblank => by_contra fun hw => ?_
      have hmarker := hspells m w rest hl hm hw hblank
      obtain ⟨w, rest, rfl, hw, hblank, hrest⟩ := hgap hl hw hblank
      cases rest with
      | nil => exact hbare ⟨marker, m, w, hmarker, by rw [List.append_nil], hw, hblank⟩
      | cons c rest =>
        have hbegins : beginsBare (c :: rest) = true :=
          beginsBare_iff.2 ⟨c, rest, rfl, hrest c _ rfl⟩
        have hafter := contentAfter?_eq_some_iff.2 ⟨w, rfl, hw, hblank, hbegins⟩
        rw [hcontent.2 ⟨m, _, rfl, hmarker, hafter⟩] at hread
        cases hread

/-! ### Bullets and ordinals -/

/-- The line begins with an ordinal that no stage reads, because one of its digits is none of those
from `0` to `9`, and with white space behind it. -/
inductive BeginsForeignOrdinal : Text → Prop
  | intro {ds : Text} {c : Char} {rest : Text} (hds : ∀ d ∈ ds, isDecimalDigit d = true)
    (hforeign : ∃ d ∈ ds, d.isDigit = false) (hc : isBlank c = true) :
    BeginsForeignOrdinal (ds ++ '.' :: c :: rest)

/-- The contents that a stage leaves of a line: that of an item, or the whole line. -/
private theorem map_content_map_reclassify {content? : Text → Option Text}
    (hnil : content? [] = none) (marker : Marker) (l : Text) :
    ([Line.ofText l].map (Line.reclassify fun t => (content? t).map (.item marker))).map
      Line.content = [(content? l).getD l] := by
  cases l with
  | nil => simp [Line.ofText, Line.reclassify, Line.content, hnil]
  | cons c l =>
    cases h : content? (c :: l) <;> simp [Line.ofText, Line.reclassify, Line.content, h]

private theorem bulletContent?_eq_some_iff_spells {l content : Text} :
    bulletContent? l = some content ↔
      ∃ m u, l = m ++ u ∧ Marker.bullet.Spells m ∧ contentAfter? u = some content := by
  rw [bulletContent?_eq_some_iff]
  constructor
  · rintro ⟨u, rfl, hafter⟩
    exact ⟨['-'], u, rfl, .bullet, hafter⟩
  · rintro ⟨_, u, rfl, ⟨⟩, hafter⟩
    exact ⟨u, rfl, hafter⟩

private theorem spells_numbered_iff {m : Text} :
    Marker.numbered.Spells m ↔
      ∃ ds, ds ≠ [] ∧ (∀ d ∈ ds, d.isDigit = true) ∧ m = ds ++ ['.'] := by
  constructor
  · intro h
    cases h with
    | @numbered ds hne hds => exact ⟨ds, hne, hds, rfl⟩
  · rintro ⟨ds, hne, hds, rfl⟩
    exact .numbered hne hds

private theorem numberedContent?_eq_some_iff_spells {l content : Text} :
    numberedContent? l = some content ↔
      ∃ m u, l = m ++ u ∧ Marker.numbered.Spells m ∧ contentAfter? u = some content := by
  rw [numberedContent?_eq_some_iff]
  constructor
  · rintro ⟨ds, u, rfl, hne, hds, hafter⟩
    exact ⟨ds ++ ['.'], u, by simp, .numbered hne hds, hafter⟩
  · rintro ⟨m, u, rfl, hm, hafter⟩
    obtain ⟨ds, hne, hds, rfl⟩ := spells_numbered_iff.1 hm
    exact ⟨ds, u, by simp, hne, hds, hafter⟩

private theorem isOrdinal_of_spells {m : Text} (h : Marker.numbered.Spells m) : IsOrdinal m := by
  obtain ⟨ds, hne, hds, rfl⟩ := spells_numbered_iff.1 h
  exact ⟨ds, hne, fun d hd => isDecimalDigit_of_isDigit (hds d hd), rfl⟩

/-- The ordinals that no stage reads. -/
private theorem not_beginsForeignOrdinal_iff {l : Text} :
    ¬BeginsForeignOrdinal l ↔
      ∀ m w rest, l = m ++ (w ++ rest) → IsOrdinal m → w ≠ [] → allBlank w = true →
        Marker.numbered.Spells m := by
  constructor
  · rintro hnot m w rest rfl ⟨ds, hne, hds, rfl⟩ hw hblank
    obtain ⟨c, w, rfl⟩ := List.exists_cons_of_ne_nil hw
    refine .numbered hne fun d hd => by_contra fun hforeign => hnot ?_
    have hc := allBlank_eq_true_iff.1 hblank c List.mem_cons_self
    have hbegins : BeginsForeignOrdinal (ds ++ '.' :: c :: (w ++ rest)) :=
      .intro hds ⟨d, hd, by simpa using hforeign⟩ hc
    simpa using hbegins
  · rintro hspells @⟨ds, c, rest, hds, ⟨d, hd, hforeign⟩, hc⟩
    have hordinal : IsOrdinal (ds ++ ['.']) := ⟨ds, List.ne_nil_of_mem hd, hds, rfl⟩
    have hmarker :=
      hspells (ds ++ ['.']) [c] rest (by simp) hordinal (by simp) (by simpa [allBlank])
    obtain ⟨ds', -, hds', heq⟩ := spells_numbered_iff.1 hmarker
    obtain rfl := (List.append_inj' heq rfl).1
    rw [hds' d hd] at hforeign
    cases hforeign

/-- **A pass strips the marker of a line that a stage makes an item**, and leaves any other line as
it is. This is so for every line that is no bare marker and for bullets; for ordinals it is so for
those lines, and only those, that do not begin with an ordinal in digits of another script. -/
theorem stripped_iff_item {l : Text} (hline : '\n' ∉ l) (hbare : ¬IsBareMarker l) :
    [withoutBullets l] = (withBullets [.ofText l]).map Line.content ∧
      ([withoutOrdinals l] = (withNumbered [.ofText l]).map Line.content ↔
        ¬BeginsForeignOrdinal l) := by
  have hbullet : ∀ m, Marker.bullet.Spells m → m = ['-'] := by
    rintro _ ⟨⟩
    rfl
  have hbullets := replaceAll_eq_content_iff findsMarkers_findBullet hbullet
    bulletContent?_eq_some_iff_spells hline hbare
  have hordinals := replaceAll_eq_content_iff findsMarkers_findOrdinal
    (fun m => isOrdinal_of_spells) numberedContent?_eq_some_iff_spells hline hbare
  rw [withBullets, withNumbered, map_content_map_reclassify rfl, map_content_map_reclassify rfl,
    List.singleton_inj, List.singleton_inj, not_beginsForeignOrdinal_iff]
  refine ⟨hbullets.2 ?_, hordinals⟩
  rintro m w rest - rfl - -
  exact .bullet

/-- A numbered item whose text looks like another marker. -/
theorem stripped_of_numbered_line :
    ('\n' ∉ "10.\u00a0\t- x".toList ∧ ¬IsBareMarker "10.\u00a0\t- x".toList) ∧
    [withoutBullets "10.\u00a0\t- x".toList] =
      (withBullets [.ofText "10.\u00a0\t- x".toList]).map Line.content ∧
    ¬BeginsForeignOrdinal "10.\u00a0\t- x".toList ∧
    withoutOrdinals "10.\u00a0\t- x".toList = "- x".toList ∧
    withNumbered [.ofText "10.\u00a0\t- x".toList] = [.item .numbered "- x".toList] := by
  have hline : '\n' ∉ "10.\u00a0\t- x".toList := by decide
  have hbare : ¬IsBareMarker "10.\u00a0\t- x".toList := not_isBareMarker_of_endsBare (by decide)
  have hitem : withNumbered [.ofText "10.\u00a0\t- x".toList] =
      [.item .numbered "- x".toList] := by decide
  have hstripped : withoutOrdinals "10.\u00a0\t- x".toList = "- x".toList := by decide
  obtain ⟨hbullets, hordinals⟩ := stripped_iff_item hline hbare
  exact ⟨⟨hline, hbare⟩, hbullets, hordinals.1 (by rw [hitem, hstripped]; rfl), hstripped, hitem⟩

/-- A line with an ordinal in Arabic digits is no item, but the pass strips it. -/
theorem stripped_of_foreign_ordinal :
    ('\n' ∉ "٣. x".toList ∧ ¬IsBareMarker "٣. x".toList) ∧
    withNumbered [.ofText "٣. x".toList] = [.text "٣. x".toList] ∧
    withoutOrdinals "٣. x".toList = "x".toList ∧
    [withoutOrdinals "٣. x".toList] ≠ (withNumbered [.ofText "٣. x".toList]).map Line.content :=
  ⟨⟨by decide, not_isBareMarker_of_endsBare (by decide)⟩, by decide, by decide, by decide⟩

end ServiceCharter.PlainText

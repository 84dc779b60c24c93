import Mathlib.Data.List.Infix
import Mathlib.Tactic.MkIffOfInductiveProp
import ServiceCharter.Proofs.Markup.Contents
import ServiceCharter.Proofs.PlainText.Lines

/-!
# Plain text and what a document shows

Plain text is made by four passes over the whole document, each of which reads what the pass before
it has left. The stages of reading look at each line once. The two agree on what a document says
(`ofSource_eq_trim_shown`), as long as the content of no line looks like a marker to a pass that
comes across it: the plain text is what the lines show, each by itself.

Four things are asked of a line (`Unambiguous`). They are about what the passes may come across: the
pass for headings reads the content anywhere, the passes for bullets and ordinals read what is shown
at the start of a line, and an item must leave something for the white space behind its marker to
end at. Each pass then takes the line one step further (`takes_shown`).
-/

namespace ServiceCharter

open Text Markup

namespace Markup

/-- What a line shows: the texts of its pieces. -/
def Line.shown (l : Line) : Text := Markup.shown (inlines l.content)

/-- The marker of an item. -/
def Line.marker? : Line → Option Marker
  | item marker _ => some marker
  | _ => none

end Markup

namespace PlainText

/-! ### Texts that look like markers -/

/-- Whether the text begins with the mark, and has white space or nothing behind it. -/
def beginsMark (mark t : Text) : Bool := (after? mark t).any fun rest => !beginsBare rest

/-- Whether the text begins with an ordinal, and has white space or nothing behind it. -/
def beginsOrdinal (t : Text) : Bool :=
  !(t.takeWhile isDecimalDigit).isEmpty && beginsMark ['.'] (t.dropWhile isDecimalDigit)

/-- No pass takes anything from the content of the line: none of it looks like a heading marker,
what an item shows begins with something other than white space, and what another line shows does
not begin with a bullet, nor with an ordinal unless it was a numbered item. -/
@[mk_iff]
structure Unambiguous (l : Line) : Prop where
  heading : ∀ rest ∈ l.content.tails, beginsMark ['#', '#'] rest = false
  item : l.marker? ≠ none → beginsBare l.shown = true
  bullet : l.marker? = none → beginsMark ['-'] l.shown = false
  ordinal : l.marker? ≠ some .numbered → beginsOrdinal l.shown = false

instance (l : Line) : Decidable (Unambiguous l) := decidable_of_iff' _ (unambiguous_iff l)

private theorem beginsMark_append (mark t : Text) :
    beginsMark mark (mark ++ t) = !beginsBare t := by
  rw [beginsMark, after?_eq_some_iff.2 rfl]
  rfl

private theorem beginsOrdinal_append {m : Text} (hm : IsOrdinal m) (t : Text) :
    beginsOrdinal (m ++ t) = !beginsBare t := by
  obtain ⟨ds, hne, hds, rfl⟩ := hm
  have hpoint : isDecimalDigit '.' = false := by decide
  have hshape : ds ++ ['.'] ++ t = ds ++ '.' :: t := by simp
  have htake : (ds ++ '.' :: t).takeWhile isDecimalDigit = ds := by
    rw [List.takeWhile_append_of_pos hds]
    simp [hpoint]
  have hdrop : (ds ++ '.' :: t).dropWhile isDecimalDigit = ['.'] ++ t := by
    rw [List.dropWhile_append_of_pos hds]
    simp [hpoint]
  rw [hshape, beginsOrdinal, htake, hdrop, beginsMark_append]
  simp [hne]

/-- An ordinal is no bullet. -/
private theorem beginsMark_hyphen_append {m : Text} (hm : IsOrdinal m) (t : Text) :
    beginsMark ['-'] (m ++ t) = false := by
  obtain ⟨ds, hne, hds, rfl⟩ := hm
  obtain ⟨d, ds, rfl⟩ := List.exists_cons_of_ne_nil hne
  have hd : '-' ≠ d := by
    rintro rfl
    exact absurd (hds '-' List.mem_cons_self) (by decide)
  simp [beginsMark, after?, hd]

/-! ### Lines in front of a pass -/

/-- A line keeps its heading markers if those are in its content, and its content does not look
like one. -/
private theorem keeps_heading {p t : Text} (hp : '#' ∉ p)
    (h : ∀ rest ∈ t.tails, beginsMark ['#', '#'] rest = false) (b : Bool) :
    Keeps (fun _ m => m = ['#', '#']) b (p ++ t) := by
  rintro y m x hsplit rfl
  have hbegins : ∀ y', t = y' ++ (['#', '#'] ++ x) → beginsBare x = true := by
    intro y' hy'
    have hmark := h (['#', '#'] ++ x) ((List.mem_tails _ _).2 ⟨y', hy'.symm⟩)
    rw [beginsMark_append] at hmark
    simpa using hmark
  rcases List.append_eq_append_iff.1 hsplit with ⟨y', rfl, ht⟩ | ⟨p', rfl, hx⟩
  · exact hbegins y' ht
  · cases p' with
    | nil => exact hbegins [] hx.symm
    | cons c p' =>
      -- The marker would begin before the content.
      obtain rfl : '#' = c := (List.cons_eq_cons.1 hx).1
      exact absurd (List.mem_append_right y List.mem_cons_self) hp

private theorem keeps_bullet {t : Text} (ht : '\n' ∉ t) (h : beginsMark ['-'] t = false) :
    Keeps (fun b m => b = true ∧ m = ['-']) true t := by
  refine keeps_true ht ?_
  rintro m x rfl rfl
  rw [beginsMark_append] at h
  simpa using h

private theorem keeps_ordinal {t : Text} (ht : '\n' ∉ t) (h : beginsOrdinal t = false) :
    Keeps (fun b m => b = true ∧ IsOrdinal m) true t := by
  refine keeps_true ht ?_
  rintro m x rfl hm
  rw [beginsOrdinal_append hm] at h
  simpa using h

/-! ### The passes -/

/-- The four passes, one after the other. -/
def reduced (t : Text) : Text := withoutOrdinals (withoutBullets (withoutBold (withoutHeadings t)))

private theorem ofSource_eq_trim_reduced (t : Text) : ofSource t = trim (reduced t) := rfl

private theorem takes_reduced {t u v w x : Text} (hheadings : Takes withoutHeadings t u)
    (hbold : Takes withoutBold u v) (hbullets : Takes withoutBullets v w)
    (hordinals : Takes withoutOrdinals w x) : Takes reduced t x :=
  ((hheadings.comp hbold).comp hbullets).comp hordinals

/-- **The passes take an unambiguous line to what it shows.** -/
theorem takes_shown {l : Line} {t : Text} (hspells : l.Spells t) (hline : '\n' ∉ t)
    (h : Unambiguous l) : Takes reduced t l.shown := by
  have hcontent : '\n' ∉ l.content := fun hmem => hline (hspells.content_isSuffix.subset hmem)
  have hshown : '\n' ∉ l.shown := newline_notMem_shown hcontent
  have hheadings : ∀ {p}, '#' ∉ p → Takes withoutHeadings (p ++ l.content) (p ++ l.content) :=
    fun hp => findsMarkers_findHeading.takes_self (keeps_heading hp h.heading true)
  have hbold : ∀ {p}, '*' ∉ p → Takes withoutBold (p ++ l.content) (p ++ l.shown) :=
    fun hp => takes_withoutBold hp hcontent
  have hbullets : l.marker? = none → Takes withoutBullets l.shown l.shown := fun hmarker =>
    findsMarkers_findBullet.takes_self (keeps_bullet hshown (h.bullet hmarker))
  have hordinals : l.marker? ≠ some .numbered → Takes withoutOrdinals l.shown l.shown :=
    fun hmarker => findsMarkers_findOrdinal.takes_self (keeps_ordinal hshown (h.ordinal hmarker))
  have hnil : ∀ c : Char, c ∉ [] := fun _ => List.not_mem_nil
  cases hspells with
  | blank =>
    exact takes_reduced (hheadings (hnil _)) (hbold (hnil _)) (hbullets rfl) (hordinals nofun)
  | text =>
    exact takes_reduced (hheadings (hnil _)) (hbold (hnil _)) (hbullets rfl) (hordinals nofun)
  | @heading w t hw ht =>
    have hkeeps := keeps_heading (hnil _) h.heading false
    have hmarker : Takes withoutHeadings (['#', '#'] ++ (w ++ t)) t :=
      findsMarkers_findHeading.takes_marker rfl hw.ne_nil hw.allBlank hw.newline_notMem ht hkeeps
    exact takes_reduced hmarker (hbold (hnil _)) (hbullets rfl) (hordinals nofun)
  | @item marker m w t hm hw ht =>
    -- The first two passes do not come across the marker.
    have hplain : ∀ {c : Char}, c ≠ '-' → c ≠ '.' → c.isDigit = false → isBlank c = false →
        c ∉ m ++ w := by
      intro c hhyphen hpoint hdigit hblank
      rw [List.mem_append, not_or]
      exact ⟨hm.notMem hhyphen hpoint hdigit, notMem_of_allBlank hblank hw.allBlank⟩
    have hfirst := hheadings (hplain (by decide) (by decide) (by decide) (by decide))
    have hsecond := hbold (hplain (by decide) (by decide) (by decide) (by decide))
    rw [List.append_assoc, List.append_assoc] at hsecond
    rw [List.append_assoc] at hfirst
    have hbare := h.item nofun
    have hwhole : '\n' ∉ m ++ (w ++ (Line.item marker t).shown) := by
      rw [List.mem_append, List.mem_append, not_or, not_or]
      exact ⟨hm.newline_notMem, hw.newline_notMem, hshown⟩
    cases hm with
    | bullet =>
      have hthird := findsMarkers_findBullet.takes_marker ⟨rfl, rfl⟩ hw.ne_nil hw.allBlank
        hw.newline_notMem hbare (keeps_false hshown)
      exact takes_reduced hfirst hsecond hthird (hordinals nofun)
    | @numbered digits hne hdigits =>
      have hordinal : IsOrdinal (digits ++ ['.']) :=
        ⟨digits, hne, fun d hd => isDecimalDigit_of_isDigit (hdigits d hd), rfl⟩
      have hhyphen := beginsMark_hyphen_append hordinal (w ++ (Line.item .numbered t).shown)
      have hthird := findsMarkers_findBullet.takes_self (keeps_bullet hwhole hhyphen)
      have hfourth := findsMarkers_findOrdinal.takes_marker ⟨rfl, hordinal⟩ hw.ne_nil hw.allBlank
        hw.newline_notMem hbare (keeps_false hshown)
      exact takes_reduced hfirst hsecond hthird hfourth

/-- **Plain text and display agree.** If no line of a source is ambiguous, its plain text is what
its lines show, up to white space around it. -/
theorem ofSource_eq_trim_shown {source : Text} (h : ∀ l ∈ classify source, Unambiguous l) :
    ofSource source = trim (['\n'].intercalate ((classify source).map Line.shown)) := by
  rcases eq_or_ne source [] with rfl | hne
  · rfl
  rw [classify_eq_map hne] at h ⊢
  have htakes : ∀ t ∈ lines source, Takes reduced t (Line.classOf t).shown := by
    intro t ht
    have hline := newline_notMem_of_mem_lines ht
    exact takes_shown (Line.spells_classOf hline) hline (h _ (List.mem_map_of_mem ht))
  have hjoin := intercalate_of_takes (lines_ne_nil source) htakes
  rw [intercalate_lines] at hjoin
  rw [ofSource_eq_trim_reduced, hjoin, List.map_map]
  rfl

/-- Lines of every kind: text with a delimiter alone, a heading, nothing, and items whose content
looks like a marker only inside. -/
theorem ofSource_of_unambiguous_lines :
    (∀ l ∈ classify "olá **x\n##  Custo **RG**\n\n-\tum **- dois**\n12. **três** 4. ".toList,
      Unambiguous l) ∧
    ofSource "olá **x\n##  Custo **RG**\n\n-\tum **- dois**\n12. **três** 4. ".toList =
      "olá **x\nCusto RG\n\num - dois\ntrês 4.".toList := by
  have h : ∀ l ∈ classify
      "olá **x\n##  Custo **RG**\n\n-\tum **- dois**\n12. **três** 4. ".toList, Unambiguous l := by
    decide +kernel
  refine ⟨h, ?_⟩
  rw [ofSource_eq_trim_shown h]
  decide +kernel

end PlainText

end ServiceCharter

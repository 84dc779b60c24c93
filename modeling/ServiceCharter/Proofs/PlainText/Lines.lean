import ServiceCharter.Proofs.PlainText.Bold
import ServiceCharter.Proofs.Text.Pieces

/-!
# Passes line by line

A pass goes over the whole document, and the white space that a marker takes may reach into the next
line. A pass `Takes` a line to another text if that is what becomes of the line, alone and in front
of any other lines; passes that follow one another take a line step by step (`Takes.comp`), and a
document whose lines are all taken is put together of what becomes of them (`intercalate_of_takes`).

The pass for bold spans takes every line to what the pieces of the line show
(`withoutBold_eq_intercalate_shown`), so it finds the spans that reading finds, and no others.

A pass for markers takes a line to itself if the line `Keeps` its markers, because something other
than white space stands behind each (`takes_self`), and takes a marker with the white space behind
it if something is left of the line (`takes_marker`).
-/

namespace ServiceCharter.PlainText

open Text

/-! ### Lines -/

/-- The pass takes the line `t` to `u`, alone and in front of other lines. -/
structure Takes (pass : Text → Text) (t u : Text) : Prop where
  alone : pass t = u
  before : ∀ v, pass (t ++ '\n' :: v) = u ++ '\n' :: pass v

/-- Two passes take a line one after the other. -/
theorem Takes.comp {pass pass' : Text → Text} {t u v : Text} (h : Takes pass t u)
    (h' : Takes pass' u v) : Takes (fun s => pass' (pass s)) t v where
  alone := by rw [h.alone, h'.alone]
  before w := by rw [h.before, h'.before]

/-- **A document of lines is put together of what the pass makes of them.** -/
theorem intercalate_of_takes {pass : Text → Text} {f : Text → Text} {ts : List Text} (hne : ts ≠ [])
    (h : ∀ t ∈ ts, Takes pass t (f t)) :
    pass (['\n'].intercalate ts) = ['\n'].intercalate (ts.map f) := by
  induction ts with
  | nil => exact absurd rfl hne
  | cons t ts ih =>
    have ht := h t List.mem_cons_self
    rcases eq_or_ne ts [] with rfl | hts
    · rw [List.map_singleton, List.intercalate_singleton, List.intercalate_singleton]
      exact ht.alone
    · have hrest := ih hts fun u hu => h u (List.mem_cons_of_mem t hu)
      rw [List.intercalate_cons_of_ne_nil hts, List.append_assoc, List.singleton_append, ht.before,
        hrest, List.map_cons, List.intercalate_cons_of_ne_nil (by simpa using hts),
        List.append_assoc, List.singleton_append]

/-! ### Bold spans -/

/-- The pass for bold spans takes a line to what it shows, up to what stands before its content. -/
theorem takes_withoutBold {p t : Text} (hp : '*' ∉ p) (ht : '\n' ∉ t) :
    Takes withoutBold (p ++ t) (p ++ Markup.shown (Markup.inlines t)) := by
  have halone : withoutBold (p ++ t) = p ++ Markup.shown (Markup.inlines t) := by
    rw [← replaceFrom_findBold_eq_shown ht (endsLine true p)]
    refine replaceFrom_append_of_none fun y x hyx hx => ?_
    refine Option.eq_none_iff_forall_ne_some.2 fun hit hhit => ?_
    obtain ⟨c, content, after, hsplit, -⟩ := eq_of_findBold hhit
    obtain ⟨d, x, rfl⟩ := List.exists_cons_of_ne_nil hx
    exact hp (by rw [hyx, (List.cons_eq_cons.1 hsplit).1]; simp)
  exact ⟨halone, fun v => by rw [withoutBold_append_newline, halone]⟩

/-- **The pass for bold spans leaves of every line what its pieces show.** A span is found in the
whole text just where reading finds one in a line. -/
theorem withoutBold_eq_intercalate_shown (t : Text) :
    withoutBold t =
      ['\n'].intercalate ((lines t).map fun l => Markup.shown (Markup.inlines l)) := by
  have htakes : ∀ l ∈ lines t, Takes withoutBold l (Markup.shown (Markup.inlines l)) :=
    fun l hl => takes_withoutBold List.not_mem_nil (newline_notMem_of_mem_lines hl)
  have hjoin := intercalate_of_takes (lines_ne_nil t) htakes
  rwa [intercalate_lines] at hjoin

/-- What a line shows stands on one line. -/
theorem newline_notMem_shown {t : Text} (h : '\n' ∉ t) :
    '\n' ∉ Markup.shown (Markup.inlines t) := by
  rw [← withoutBold_eq_shown h]
  refine List.count_eq_zero.1 ?_
  rw [count_withoutBold (by decide), List.count_eq_zero.2 h]

/-! ### Markers -/

/-- Something other than white space stands behind every marker in the text. -/
def Keeps (IsMarker : Bool → Text → Prop) (lineStart : Bool) (t : Text) : Prop :=
  ∀ y m x, t = y ++ (m ++ x) → IsMarker (endsLine lineStart y) m → beginsBare x = true

section Finders

variable {find : Finder} {IsMarker : Bool → Text → Prop}

/-- A text that keeps its markers stays in front of white space. -/
theorem FindsMarkers.replaceFrom_of_keeps (hf : FindsMarkers find IsMarker) {b : Bool} {t u : Text}
    (ht : Keeps IsMarker b t) (hu : beginsBare u = false) :
    replaceFrom find 0 b (t ++ u) = t ++ replaceFrom find 0 (endsLine b t) u := by
  refine replaceFrom_append_of_none fun y x hyx _ => ?_
  refine Option.eq_none_iff_forall_ne_some.2 fun hit hhit => ?_
  obtain ⟨m, w, rest, hsplit, hm, hw, hblank, -⟩ := hf.find_eq_some_iff.1 hhit
  rcases List.append_eq_append_iff.1 hsplit with ⟨m', rfl, hu'⟩ | ⟨x', rfl, hx'⟩
  · cases m' with
    | nil =>
      -- The marker stands at the end of the text, with nothing behind it.
      have hbare := ht y x [] (by rw [hyx, List.append_nil]) (by simpa using hm)
      cases hbare
    | cons c m' =>
      have hc := unbroken_iff.1 (hf.unbroken hm) c (by simp)
      rw [hu'] at hu
      simp [beginsBare, hc] at hu
  · obtain ⟨c, x, rfl, hc⟩ := beginsBare_iff.1 (ht y m x' hyx hm)
    obtain ⟨d, w, rfl⟩ := List.exists_cons_of_ne_nil hw
    have hd := allBlank_eq_true_iff.1 hblank d (by simp)
    rw [(List.cons_eq_cons.1 hx').1, hc] at hd
    cases hd

/-- The line feed behind a line stays, and a line begins behind it. -/
theorem FindsMarkers.replaceFrom_newline (hf : FindsMarkers find IsMarker) (b : Bool) (v : Text) :
    replaceFrom find 0 b ('\n' :: v) = '\n' :: replaceAll find v :=
  hf.replaceFrom_blank_append b (show allBlank ['\n'] = true by decide) v

/-- A pass takes a line to what it leaves of it in front of white space. -/
theorem FindsMarkers.takes_of_append (hf : FindsMarkers find IsMarker) {t v : Text} (b : Bool)
    (h : ∀ u, beginsBare u = false →
      replaceAll find (t ++ u) = v ++ replaceFrom find 0 b u) :
    Takes (replaceAll find) t v where
  alone := by
    have hnil := h [] rfl
    rw [List.append_nil] at hnil
    exact hnil.trans (List.append_nil v)
  before w := by
    have hbreak : beginsBare ('\n' :: w) = false := by
      simp [beginsBare, show isBlank '\n' = true by decide]
    rw [h _ hbreak, hf.replaceFrom_newline]

/-- **A line that keeps its markers stays.** -/
theorem FindsMarkers.takes_self (hf : FindsMarkers find IsMarker) {t : Text}
    (ht : Keeps IsMarker true t) : Takes (replaceAll find) t t :=
  hf.takes_of_append _ fun _ hu => hf.replaceFrom_of_keeps ht hu

/-- **A marker goes together with the white space behind it**, and leaves the content of the line.
-/
theorem FindsMarkers.takes_marker (hf : FindsMarkers find IsMarker) {m w t : Text}
    (hm : IsMarker true m) (hw : w ≠ []) (hblank : allBlank w = true) (hline : '\n' ∉ w)
    (hbare : beginsBare t = true) (ht : Keeps IsMarker false t) :
    Takes (replaceAll find) (m ++ (w ++ t)) t := by
  obtain ⟨c, rest, rfl, hc⟩ := beginsBare_iff.1 hbare
  refine hf.takes_of_append (endsLine false (c :: rest)) fun u hu => ?_
  have hstart : StartsBare (c :: rest ++ u) := fun d r h => by
    rw [← (List.cons_eq_cons.1 h).1]
    exact hc
  rw [List.append_assoc, List.append_assoc, replaceAll, hf.replaceFrom_marker hm hw hblank hstart,
    endsLine_of_ne_nil hw true false, endsLine_false_of_newline_notMem hline,
    hf.replaceFrom_of_keeps ht hu]

end Finders

section LineStart

variable {IsMark : Text → Prop} {t : Text}

/-- Behind the start of a line there are no markers that stand at the start of a line. -/
theorem keeps_false (ht : '\n' ∉ t) : Keeps (fun b m => b = true ∧ IsMark m) false t := by
  rintro y m x rfl ⟨hline, -⟩
  have hy : '\n' ∉ y := fun hmem => ht (List.mem_append_left _ hmem)
  rw [endsLine_false_of_newline_notMem hy] at hline
  cases hline

/-- Of the markers that stand at the start of a line, a line has at most the one that it begins
with. -/
theorem keeps_true (ht : '\n' ∉ t) (h : ∀ m x, t = m ++ x → IsMark m → beginsBare x = true) :
    Keeps (fun b m => b = true ∧ IsMark m) true t := by
  rintro y m x hsplit ⟨hline, hm⟩
  have hy : '\n' ∉ y := fun hmem => ht (by rw [hsplit]; exact List.mem_append_left _ hmem)
  rcases eq_or_ne y [] with rfl | hne
  · exact h m x hsplit hm
  · rw [endsLine_of_ne_nil hne true false, endsLine_false_of_newline_notMem hy] at hline
    cases hline

end LineStart

end ServiceCharter.PlainText

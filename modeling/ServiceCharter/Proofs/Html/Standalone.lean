import ServiceCharter.Html.Page
import ServiceCharter.Proofs.Text.Pieces

/-!
# Standalone pages

The title of a page may be any text. Its characters are replaced kind by kind, ampersands first, so
nothing that a replacement writes is replaced again: it comes to the same as replacing every
character by itself (`escapeTitle_eq_flatMap`). A title is therefore found again by undoing the
references (`unescapeTitle_escapeTitle`), also if it held some before.

Every page begins with the same characters, and no title holds the `<` of the tag that ends it. So
the title is what stands between the first `<title>` and the next `<` (`titleText?_page`), and two
pages with the same rules added to the stylesheet are told apart by their titles and their fragments
(`page_inj`).
-/

namespace ServiceCharter

namespace Text

/-- What follows the first place at which `mark` stands in a text. -/
def afterFirst? (mark : Text) : Text → Option Text
  | [] => after? mark []
  | c :: t => (after? mark (c :: t)).or (afterFirst? mark t)

private theorem exists_of_afterFirst? {mark t rest : Text} (h : afterFirst? mark t = some rest) :
    ∃ before, t = before ++ (mark ++ rest) := by
  induction t with
  | nil =>
    have hmark : [] = mark ++ rest := after?_eq_some_iff.1 h
    exact ⟨[], hmark⟩
  | cons c t ih =>
    rcases Option.or_eq_some_iff.1 h with hhere | ⟨-, hlater⟩
    · have hmark : c :: t = mark ++ rest := after?_eq_some_iff.1 hhere
      exact ⟨[], hmark⟩
    · obtain ⟨before, rfl⟩ := ih hlater
      exact ⟨c :: before, rfl⟩

/-- What is added behind a text does not come before what was found in it. -/
private theorem afterFirst?_append {mark t rest : Text} (h : afterFirst? mark t = some rest)
    (u : Text) : afterFirst? mark (t ++ u) = some (rest ++ u) := by
  induction t with
  | nil =>
    obtain ⟨rfl, rfl⟩ := List.append_eq_nil_iff.1 (after?_eq_some_iff.1 h).symm
    cases u <;> rfl
  | cons c t ih =>
    cases hhere : after? mark (c :: t) with
    | some here =>
      obtain rfl : here = rest := by simpa [afterFirst?, hhere] using h
      have hlonger : after? mark (c :: t ++ u) = some (here ++ u) := by
        rw [after?_eq_some_iff, after?_eq_some_iff.1 hhere, List.append_assoc]
      rw [List.cons_append] at hlonger ⊢
      rw [afterFirst?, hlonger]
      rfl
    | none =>
      have hlater : afterFirst? mark t = some rest := by simpa [afterFirst?, hhere] using h
      -- The mark fits into what was there, so it cannot begin here and end in what is added.
      have hnone : after? mark (c :: t ++ u) = none := by
        refine Option.eq_none_iff_forall_ne_some.2 fun v hv => ?_
        obtain ⟨before, hbefore⟩ := exists_of_afterFirst? hlater
        have hlength : mark.length ≤ (c :: t).length := by
          rw [hbefore]
          simp only [List.length_cons, List.length_append]
          omega
        have hmark : mark <+: c :: t := List.prefix_of_prefix_length_le
          ⟨v, (after?_eq_some_iff.1 hv).symm⟩ (List.prefix_append (c :: t) u) hlength
        obtain ⟨w, hw⟩ := hmark
        rw [after?_eq_some_iff.2 hw.symm] at hhere
        cases hhere
      rw [List.cons_append] at hnone ⊢
      rw [afterFirst?, hnone, Option.none_or, ih hlater]

end Text

namespace Html

open Text

/-! ### Titles -/

/-- A character of a title. -/
def escapeTitleChar (c : Char) : Text :=
  if c = '&' then ['&', 'a', 'm', 'p', ';']
  else if c = '<' then ['&', 'l', 't', ';']
  else if c = '>' then ['&', 'g', 't', ';']
  else if c = '"' then ['&', 'q', 'u', 'o', 't', ';']
  else [c]

/-- The text with the references of titles undone, from left to right. -/
def unescapeTitle : Text → Text
  | '&' :: 'a' :: 'm' :: 'p' :: ';' :: t => '&' :: unescapeTitle t
  | '&' :: 'l' :: 't' :: ';' :: t => '<' :: unescapeTitle t
  | '&' :: 'g' :: 't' :: ';' :: t => '>' :: unescapeTitle t
  | '&' :: 'q' :: 'u' :: 'o' :: 't' :: ';' :: t => '"' :: unescapeTitle t
  | c :: t => c :: unescapeTitle t
  | [] => []

/-- No reference that a replacement writes holds a character that a later one replaces. -/
private theorem escapeTitle_singleton (c : Char) : escapeTitle [c] = escapeTitleChar c := by
  unfold escapeTitleChar
  split_ifs with hamp hlt hgt hquot
  · subst hamp; rfl
  · subst hlt; rfl
  · subst hgt; rfl
  · subst hquot; rfl
  · simp [escapeTitle, replaceChar, hamp, hlt, hgt, hquot]

/-- **Each character of a title is replaced by itself.** -/
theorem escapeTitle_eq_flatMap (t : Text) : escapeTitle t = t.flatMap escapeTitleChar := by
  have hall : escapeTitle t = t.flatMap fun c => escapeTitle [c] := by
    simp only [escapeTitle, replaceChar, List.flatMap_assoc, List.flatMap_singleton]
  rw [hall]
  exact List.flatMap_congr fun c _ => escapeTitle_singleton c

example : escapeTitle "&lt;\"".toList = "&amp;lt;&quot;".toList := by decide

/-- A title holds nothing that begins or ends a tag or an attribute. -/
theorem notMem_escapeTitle (t : Text) :
    '<' ∉ escapeTitle t ∧ '>' ∉ escapeTitle t ∧ '"' ∉ escapeTitle t := by
  have hchar : ∀ {c : Char}, (∀ d, c ∉ escapeTitleChar d) → c ∉ escapeTitle t := by
    intro c h hmem
    rw [escapeTitle_eq_flatMap] at hmem
    obtain ⟨d, -, hd⟩ := List.mem_flatMap.1 hmem
    exact h d hd
  refine ⟨hchar fun d => ?_, hchar fun d => ?_, hchar fun d => ?_⟩
  all_goals
    rw [escapeTitleChar]
    split_ifs <;> simp_all [eq_comm]

private theorem unescapeTitle_escapeTitleChar_append (c : Char) (t : Text) :
    unescapeTitle (escapeTitleChar c ++ t) = c :: unescapeTitle t := by
  rw [escapeTitleChar]
  split_ifs with hamp hlt hgt hquot
  · subst hamp; rfl
  · subst hlt; rfl
  · subst hgt; rfl
  · subst hquot; rfl
  · rw [List.singleton_append, unescapeTitle]
    all_goals exact fun _ h _ => hamp h

/-- **A title is found again by undoing its references.** -/
theorem unescapeTitle_escapeTitle (t : Text) : unescapeTitle (escapeTitle t) = t := by
  rw [escapeTitle_eq_flatMap]
  induction t with
  | nil => rfl
  | cons c t ih => rw [List.flatMap_cons, unescapeTitle_escapeTitleChar_append, ih]

/-! ### Pages -/

/-- What follows the title of a page, but for the `<` with which that begins. -/
private def behindTitle (css : Option String) (body : Text) : Text :=
  pageStyle.toList.tail ++ (stylesheet.toList ++ ('\n' :: ((css.getD "").toList ++
    (pageBody.toList ++ (body ++ pageEnd.toList)))))

private theorem page_eq (options : Options) (body : Text) :
    page options body = pageStart.toList ++
      (escapeTitle options.title.toList ++ '<' :: behindTitle options.css body) := by
  have hstyle : pageStyle.toList = '<' :: pageStyle.toList.tail := by decide +kernel
  rw [page, behindTitle, ← List.cons_append, ← hstyle]
  simp only [List.append_assoc, List.cons_append, List.nil_append]

private theorem behindTitle_inj {css : Option String} {body body' : Text} :
    behindTitle css body = behindTitle css body' ↔ body = body' := by
  simp [behindTitle]

/-- What stands between the first `<title>` and the next `<`. -/
def titleText? (html : Text) : Option Text :=
  (afterFirst? "<title>".toList html).bind fun t =>
    if '<' ∈ t then some (t.takeWhile (· != '<')) else none

/-- The first `<title>` of a page ends what all pages begin with. -/
private theorem afterFirst?_pageStart :
    afterFirst? "<title>".toList pageStart.toList = some [] := by
  -- The literals are read one by one: the time for one grows faster than its length.
  obtain ⟨a, b, c, hstart, hfirst⟩ : ∃ a b c : String, pageStart = a ++ b ++ c ∧
      afterFirst? "<title>".toList (a.toList ++ b.toList ++ c.toList) = some [] :=
    ⟨_, _, _, rfl, by decide +kernel⟩
  rw [hstart, String.toList_append, String.toList_append]
  exact hfirst

theorem titleText?_page (options : Options) (body : Text) :
    titleText? (page options body) = some (escapeTitle options.title.toList) := by
  have hescaped : ∀ c ∈ escapeTitle options.title.toList, (c != '<') = true := fun c hc =>
    bne_iff_ne.2 fun hlt => (notMem_escapeTitle _).1 (hlt ▸ hc)
  rw [titleText?, page_eq, afterFirst?_append afterFirst?_pageStart, List.nil_append,
    Option.bind_some, if_pos (by simp), List.takeWhile_append_of_pos hescaped,
    List.takeWhile_cons_of_neg (by decide), List.append_nil]

private theorem escapeTitle_inj {t t' : Text} : escapeTitle t = escapeTitle t' ↔ t = t' :=
  ⟨fun h => by rw [← unescapeTitle_escapeTitle t, h, unescapeTitle_escapeTitle], congrArg _⟩

/-- Pages whose stylesheets end alike are told apart by their titles and what they are made
around. -/
theorem page_inj {standalone : Bool} {title title' : String} {css : Option String}
    {body body' : Text} :
    page ⟨standalone, title, css⟩ body = page ⟨standalone, title', css⟩ body' ↔
      title = title' ∧ body = body' := by
  constructor
  · intro h
    have htitle : escapeTitle title.toList = escapeTitle title'.toList := by
      have hread := titleText?_page ⟨standalone, title, css⟩ body
      rw [h, titleText?_page] at hread
      exact (Option.some.inj hread).symm
    rw [page_eq, page_eq, htitle, List.append_cancel_left_eq, List.append_cancel_left_eq] at h
    exact ⟨String.toList_inj.1 (escapeTitle_inj.1 htitle),
      behindTitle_inj.1 (List.cons_eq_cons.1 h).2⟩
  · rintro ⟨rfl, rfl⟩
    rfl

/-- **A page carries its title and its fragment intact.** Each character of a title is replaced by
itself, no `<`, `>` or `"` is left, and the title is found again by undoing the references. It is
what stands between the first `<title>` of a page and the next `<`, with the references undone.
Pages with the same rules added to the stylesheet, or none, are the same exactly if they have the
same titles and the same fragments. -/
theorem page_keeps_title_and_fragment (css : Option String) :
    (∀ t : Text, escapeTitle t = t.flatMap escapeTitleChar ∧
      '<' ∉ escapeTitle t ∧ '>' ∉ escapeTitle t ∧ '"' ∉ escapeTitle t ∧
      unescapeTitle (escapeTitle t) = t) ∧
    (∀ (title : String) (d : Document),
      (titleText? (renderDocument ⟨true, title, css⟩ d)).map unescapeTitle = some title.toList) ∧
    ∀ (title title' : String) (d d' : Document),
      renderDocument ⟨true, title, css⟩ d = renderDocument ⟨true, title', css⟩ d' ↔
        title = title' ∧ renderFragment d.source = renderFragment d'.source := by
  have hpage : ∀ (title : String) (d : Document), renderDocument ⟨true, title, css⟩ d =
      page ⟨true, title, css⟩ (renderFragment d.source) := fun _ _ => rfl
  refine ⟨fun t => ?_, fun title d => ?_, fun title title' d d' => ?_⟩
  · obtain ⟨hlt, hgt, hquot⟩ := notMem_escapeTitle t
    exact ⟨escapeTitle_eq_flatMap t, hlt, hgt, hquot, unescapeTitle_escapeTitle t⟩
  · rw [hpage, titleText?_page, Option.map_some, unescapeTitle_escapeTitle]
  · rw [hpage, hpage, page_inj]

end Html

end ServiceCharter

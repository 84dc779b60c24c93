import Mathlib.Data.List.Basic
import Mathlib.Data.List.TakeWhile
import ServiceCharter.Json.Reader
import ServiceCharter.Proofs.Except

/-!
# Readers look no further than they read

A reader of JSON takes a piece off the head of its text and answers a value with what is left. What
it answers depends on that piece and on the one character behind it, where a numeral has to end
(`Local`). The property passes through every way in which readers are built from others, so it is
proved reader by reader: here for words and strings, then for numerals, lists and objects.
-/

namespace ServiceCharter.Json

/-! ### Local readers -/

section Local

variable {ε α β : Type} {read other : Text → Except ε (α × Text)}

/-- The next character behind a piece is that of the piece, or that of what follows it. -/
theorem head?_append_congr (piece : Text) {rest rest' : Text} (h : rest'.head? = rest.head?) :
    (piece ++ rest').head? = (piece ++ rest).head? := by
  rw [List.head?_append, List.head?_append, h]

/-- A reader is local if it takes a piece off the head of a text, and its answer depends on the
piece and on the next character only. -/
def Local (read : Text → Except ε (α × Text)) : Prop :=
  ∀ ⦃t a rest⦄, read t = .ok (a, rest) →
    ∃ piece, t = piece ++ rest ∧
      ∀ rest', rest'.head? = rest.head? → read (piece ++ rest') = .ok (a, rest')

/-- A reader that never answers is local. -/
theorem Local.of_ne_ok (h : ∀ t x, read t ≠ .ok x) : Local read :=
  fun t a rest hread => absurd hread (h t (a, rest))

/-- A reader that answers like a local one is local; how it fails is of no concern. -/
theorem Local.of_iff {read' : Text → Except ε (α × Text)}
    (h : ∀ t x, read' t = .ok x ↔ read t = .ok x) (hread : Local read) : Local read' := by
  rintro t a rest ht
  obtain ⟨piece, hsplit, hpiece⟩ := hread ((h t _).1 ht)
  exact ⟨piece, hsplit, fun rest' hhead => (h _ _).2 (hpiece rest' hhead)⟩

/-- A reader that consumes nothing is local. -/
theorem Local.pure (a : α) : Local fun t => (.ok (a, t) : Except ε (α × Text)) := by
  rintro t b rest h
  cases h
  exact ⟨[], rfl, fun _ _ => rfl⟩

/-- A reader that goes on behind another one. -/
theorem Local.bind {next : α → Text → Except ε (β × Text)} (hread : Local read)
    (hnext : ∀ a, Local (next a)) : Local fun t => (read t).bind fun x => next x.1 x.2 := by
  rintro t b rest h
  obtain ⟨⟨a, mid⟩, ha, hb⟩ := bind_eq_ok_iff.1 h
  obtain ⟨piece₁, rfl, h₁⟩ := hread ha
  obtain ⟨piece₂, rfl, h₂⟩ := hnext a hb
  refine ⟨piece₁ ++ piece₂, (List.append_assoc _ _ _).symm, fun rest' hhead => ?_⟩
  simp only [List.append_assoc, h₁ _ (head?_append_congr piece₂ hhead), Except.bind]
  exact h₂ rest' hhead

/-- A reader that changes the value of another one. -/
theorem Local.map (hread : Local read) (f : α → β) :
    Local fun t => (read t).map fun x => (f x.1, x.2) := by
  have h : (fun t => (read t).map fun x => (f x.1, x.2)) =
      fun t => (read t).bind fun x => .ok (f x.1, x.2) := by
    funext t
    cases read t <;> rfl
  rw [h]
  exact hread.bind fun a => Local.pure (f a)

/-- A reader that behaves like another one, except behind certain first characters. -/
theorem Local.of_cons_or (hother : Local other) (hnil : read [] = other [])
    (hcons : ∀ c, (Local fun r => read (c :: r)) ∨ ∀ r, read (c :: r) = other (c :: r)) :
    Local read := by
  rintro t a rest h
  cases t with
  | nil =>
    rw [hnil] at h
    obtain ⟨piece, hpiece, -⟩ := hother h
    obtain ⟨rfl, rfl⟩ := List.append_eq_nil_iff.1 hpiece.symm
    refine ⟨[], rfl, fun rest' hhead => ?_⟩
    obtain rfl := List.head?_eq_none_iff.1 hhead
    rw [← h, ← hnil]
    rfl
  | cons c r =>
    rcases hcons c with hlocal | hsame
    · obtain ⟨piece, rfl, hpiece⟩ := hlocal h
      exact ⟨c :: piece, rfl, hpiece⟩
    · rw [hsame] at h
      obtain ⟨piece, hsplit, hpiece⟩ := hother h
      refine ⟨piece, hsplit, fun rest' hhead => ?_⟩
      rw [← hpiece rest' hhead]
      -- The text still begins with the same character, whether that was consumed or not.
      cases piece with
      | nil =>
        obtain rfl : c :: r = rest := hsplit
        obtain ⟨r', rfl⟩ := List.head?_eq_some_iff.1 hhead
        exact hsame r'
      | cons d piece =>
        obtain ⟨rfl, -⟩ := List.cons_eq_cons.1 hsplit
        exact hsame (piece ++ rest')

/-- A reader that takes a first character, whatever it may be. -/
theorem Local.of_cons (hnil : ∀ x, read [] ≠ .ok x) (hcons : ∀ c, Local fun r => read (c :: r)) :
    Local read := by
  rintro t a rest h
  cases t with
  | nil => exact absurd h (hnil _)
  | cons c r =>
    obtain ⟨piece, rfl, hpiece⟩ := hcons c h
    exact ⟨c :: piece, rfl, hpiece⟩

end Local

/-! ### White space -/

theorem exists_skipSpace_eq (t : Text) :
    ∃ w, t = w ++ skipSpace t ∧ w.all isSpace = true := by
  refine ⟨t.takeWhile isSpace, (List.takeWhile_append_dropWhile).symm, ?_⟩
  rw [List.all_eq_true]
  exact fun c hc => List.mem_takeWhile_imp hc

private theorem skipSpace_append {w : Text} (hw : w.all isSpace = true) (t : Text) :
    skipSpace (w ++ t) = skipSpace t :=
  List.dropWhile_append_of_pos fun c hc => List.all_eq_true.1 hw c hc

theorem skipSpace_cons_of_not {c : Char} (hc : isSpace c = false) (t : Text) :
    skipSpace (c :: t) = c :: t := by
  simp [skipSpace, hc]

/-- The first character that is left is no white space. -/
theorem not_isSpace_of_skipSpace {t r : Text} {c : Char} (h : skipSpace t = c :: r) :
    isSpace c = false := by
  have hne : t.dropWhile isSpace ≠ [] := by
    intro hnil
    rw [skipSpace, hnil] at h
    cases h
  have hhead := List.head_dropWhile_not isSpace hne
  simpa [show t.dropWhile isSpace = c :: r from h] using hhead

/-- Skipping white space takes a piece off the head, which depends on the next character only. -/
theorem exists_of_skipSpace {t u : Text} (h : skipSpace t = u) :
    ∃ w, t = w ++ u ∧ ∀ u', u'.head? = u.head? → skipSpace (w ++ u') = u' := by
  obtain ⟨w, hsplit, hw⟩ := exists_skipSpace_eq t
  refine ⟨w, h ▸ hsplit, fun u' hhead => ?_⟩
  rw [skipSpace_append hw]
  cases u' with
  | nil => rfl
  | cons c u' =>
    obtain ⟨r, hr⟩ := List.head?_eq_some_iff.1 hhead.symm
    exact skipSpace_cons_of_not (not_isSpace_of_skipSpace (h.trans hr)) u'

/-- A reader that passes over white space and then takes a first character. -/
theorem Local.of_skipSpace {α : Type} {read : Text → Except Fault (α × Text)}
    (hskip : ∀ t, read (skipSpace t) = read t) (hnil : ∀ x, read [] ≠ .ok x)
    (hcons : ∀ c, isSpace c = false → Local fun r => read (c :: r)) : Local read := by
  rintro t a rest h
  rw [← hskip] at h
  cases ht : skipSpace t with
  | nil => exact absurd (ht ▸ h) (hnil _)
  | cons c r =>
    rw [ht] at h
    obtain ⟨w, rfl, hw⟩ := exists_of_skipSpace ht
    obtain ⟨piece, rfl, hpiece⟩ := hcons c (not_isSpace_of_skipSpace ht) h
    refine ⟨w ++ c :: piece, by simp, fun rest' hhead => ?_⟩
    rw [← hskip, List.append_assoc, List.cons_append, hw (c :: (piece ++ rest')) rfl]
    exact hpiece rest' hhead

/-! ### Words and strings -/

private theorem readWord_eq_ok {word t rest : Text} (h : readWord word t = .ok rest) :
    t = word ++ rest := by
  induction word generalizing t with
  | nil => cases h; rfl
  | cons w word ih =>
    cases t with
    | nil => cases h
    | cons c t =>
      unfold readWord at h
      split at h
      · next hc => rw [hc, ih h, List.cons_append]
      · cases h

private theorem readWord_append (word rest : Text) : readWord word (word ++ rest) = .ok rest := by
  induction word with
  | nil => rfl
  | cons w word ih => simpa [readWord] using ih

theorem local_readWord {α : Type} (word : Text) (v : α) :
    Local fun t => (readWord word t).map fun rest => (v, rest) := by
  rintro t a rest h
  obtain ⟨rest', hrest, hpair⟩ := map_eq_ok_iff.1 h
  cases hpair
  refine ⟨word, readWord_eq_ok hrest, fun rest' _ => ?_⟩
  simp only [readWord_append]
  rfl

private theorem local_readHex : Local readHex := by
  rintro t n rest h
  unfold readHex at h
  split at h
  · next hn =>
    cases h
    obtain ⟨digits, -, rfl, hread⟩ := Text.exists_of_hexNumber? hn
    exact ⟨digits, rfl, fun rest' _ => by rw [readHex, hread]⟩
  · cases h

private theorem local_readNumbered : Local readNumbered := by
  rintro t c rest h
  unfold readNumbered at h
  split at h
  · cases h
  · next n s hs =>
    obtain ⟨piece, rfl, hpiece⟩ := local_readHex hs
    split at h
    · cases h
    · next hlow =>
      split at h
      · next hone =>
        cases h
        refine ⟨piece, rfl, fun rest' hhead => ?_⟩
        simp [readNumbered, hpiece rest' hhead, hlow, hone]
      · next htwo =>
        split at h
        · cases h
        · cases h
        · split at h
          · cases h
          · next m rest hm =>
            split at h
            · next hsecond =>
              simp only [Except.ok.injEq, Prod.mk.injEq] at h
              obtain ⟨rfl, rfl⟩ := h
              obtain ⟨piece', rfl, hpiece'⟩ := local_readHex hm
              refine ⟨piece ++ '\\' :: 'u' :: piece', by simp, fun rest' hhead => ?_⟩
              have hfirst := hpiece ('\\' :: 'u' :: (piece' ++ rest')) rfl
              rw [List.append_assoc, List.cons_append, List.cons_append, readNumbered]
              simp only [hfirst, if_neg hlow, if_neg htwo, hpiece' rest' hhead, if_pos hsecond]
            · cases h
        · cases h
        · cases h

private theorem local_readEscape : Local readEscape := by
  refine Local.of_cons (by simp [readEscape]) fun c => ?_
  by_cases hu : c = 'u'
  · simpa [readEscape, hu] using local_readNumbered
  · cases he : unescape? c with
    | none => simpa [readEscape, hu, he] using Local.of_ne_ok (by simp)
    | some e => simpa [readEscape, hu, he] using Local.pure e

/-- A string ends at its closing quote. -/
theorem local_readString : Local readString := by
  intro t
  fun_induction readString t with
  | case1 | case3 | case4 | case6 | case7 => rintro s rest h; cases h
  | case2 t =>
    rintro s rest h
    cases h
    exact ⟨['"'], rfl, fun rest' _ => by simp [readString]⟩
  | case5 t e mid hescape hlen s rest hread hquote ih =>
    rintro s' rest h
    cases h
    obtain ⟨piece₁, rfl, h₁⟩ := local_readEscape hescape
    obtain ⟨piece₂, rfl, h₂⟩ := ih hread
    refine ⟨'\\' :: (piece₁ ++ piece₂), by simp, fun rest' hhead => ?_⟩
    have hmid := head?_append_congr piece₂ hhead
    rw [List.cons_append, List.append_assoc, readString, if_neg hquote, if_pos rfl]
    split
    · next herror => rw [h₁ _ hmid] at herror; cases herror
    · next hok =>
      rw [h₁ _ hmid] at hok
      cases hok
      rw [h₂ rest' hhead]
  | case8 c t hquote hslash hcontrol s rest hread ih =>
    rintro s' rest h
    cases h
    obtain ⟨piece, rfl, hpiece⟩ := ih hread
    refine ⟨c :: piece, rfl, fun rest' hhead => ?_⟩
    rw [List.cons_append, readString, if_neg hquote, if_neg hslash, if_neg hcontrol,
      hpiece rest' hhead]

end ServiceCharter.Json

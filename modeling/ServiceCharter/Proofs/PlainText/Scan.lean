import ServiceCharter.PlainText.Marker
import ServiceCharter.Proofs.Text.Deletion

/-!
# Replacing markers piece by piece

`replaceAll` looks at the rest of the text wherever it stands, so the replacements in a piece of a
text may depend on what follows the piece. `Separates` says that they do not, and then a text is
replaced piece by piece (`replaceFrom_append`).

The finders of headings, bullets and ordinals have the same shape: a marker without white space,
then white space, all of which goes (`FindsMarkers`). A piece that ends with such a marker, up to
white space, is *open*: the marker takes the white space at the beginning of what follows. All other
pieces are separated from what follows by white space (`FindsMarkers.separates_of_blank`).
-/

namespace ServiceCharter.PlainText

open Text

/-! ### Line starts -/

/-- Whether a line begins behind the text, given whether one begins at its head. -/
def endsLine : Bool → Text → Bool
  | lineStart, [] => lineStart
  | _, c :: t => endsLine (c == '\n') t

@[simp] theorem endsLine_nil (b : Bool) : endsLine b [] = b := rfl

@[simp] theorem endsLine_cons (b : Bool) (c : Char) (t : Text) :
    endsLine b (c :: t) = endsLine (c == '\n') t := rfl

@[simp] theorem endsLine_append (b : Bool) (t u : Text) :
    endsLine b (t ++ u) = endsLine (endsLine b t) u := by
  induction t generalizing b with
  | nil => rfl
  | cons c t ih => exact ih (c == '\n')

/-- Behind a text that is not empty, its head is of no concern. -/
theorem endsLine_of_ne_nil {t : Text} (h : t ≠ []) (b b' : Bool) :
    endsLine b t = endsLine b' t := by
  cases t with
  | nil => exact absurd rfl h
  | cons c t => rfl

/-- No line begins behind what stands on one line. -/
theorem endsLine_false_of_newline_notMem {t : Text} (h : '\n' ∉ t) : endsLine false t = false := by
  induction t with
  | nil => rfl
  | cons c t ih =>
    rw [List.mem_cons, not_or] at h
    have hc : (c == '\n') = false := by simpa using Ne.symm h.1
    rw [endsLine_cons, hc, ih h.2]

/-! ### Separation -/

section Scan

variable {find : Finder}

/-- Passing over a piece. -/
theorem replaceFrom_length_append (b : Bool) (p t : Text) :
    replaceFrom find p.length b (p ++ t) = replaceFrom find 0 (endsLine b p) t := by
  induction p generalizing b with
  | nil => rfl
  | cons c p ih => simpa [replaceFrom] using ih (c == '\n')

/-- A marker at the head of a text is replaced. -/
theorem replaceFrom_of_hit {b : Bool} {c : Char} {p t kept : Text}
    (h : find b (c :: (p ++ t)) = some ⟨p.length, kept⟩) :
    replaceFrom find 0 b (c :: (p ++ t)) = kept ++ replaceFrom find 0 (endsLine b (c :: p)) t := by
  rw [replaceFrom, h]
  simp only [replaceFrom_length_append, endsLine_cons]

/-- A finder does not take more than there is. -/
def Fits (find : Finder) : Prop :=
  ∀ ⦃b t hit⦄, find b t = some hit → hit.more < t.length

/-- The finder sees the same markers in `a`, whether `u` follows or nothing does. -/
def Separates (find : Finder) (b : Bool) (a u : Text) : Prop :=
  ∀ y x, a = y ++ x → x ≠ [] → find (endsLine b y) (x ++ u) = find (endsLine b y) x

theorem Separates.tail {b : Bool} {c : Char} {a u : Text} (h : Separates find b (c :: a) u) :
    Separates find (c == '\n') a u :=
  fun y x hyx => h (c :: y) x (congrArg (c :: ·) hyx)

/-- **A text is replaced piece by piece**, if the pieces are separated. -/
theorem replaceFrom_append (hfits : Fits find) {b : Bool} {a u : Text} (h : Separates find b a u)
    {skip : Nat} (hskip : skip ≤ a.length) :
    replaceFrom find skip b (a ++ u) =
      replaceFrom find skip b a ++ replaceFrom find 0 (endsLine b a) u := by
  -- What is still to be passed over never reaches beyond the piece.
  induction a generalizing b skip with
  | nil =>
    obtain rfl : skip = 0 := Nat.le_zero.1 hskip
    rfl
  | cons c a ih =>
    cases skip with
    | succ skip =>
      rw [List.cons_append, replaceFrom, replaceFrom]
      exact ih h.tail (Nat.le_of_succ_le_succ hskip)
    | zero =>
      have hhere := h [] (c :: a) rfl (by simp)
      rw [List.cons_append] at hhere ⊢
      rw [replaceFrom, replaceFrom]
      simp only [endsLine_nil] at hhere
      rw [hhere]
      cases hfind : find b (c :: a) with
      | none => simp only [ih h.tail (Nat.zero_le _), endsLine_cons, List.cons_append]
      | some hit =>
        have hmore : hit.more ≤ a.length := Nat.le_of_lt_succ (hfits hfind)
        simp only [ih h.tail hmore, endsLine_cons, List.append_assoc]

theorem replaceAll_append (hfits : Fits find) {a u : Text} (h : Separates find true a u) :
    replaceAll find (a ++ u) = replaceAll find a ++ replaceFrom find 0 (endsLine true a) u :=
  replaceFrom_append hfits h (Nat.zero_le _)

/-- A piece stays as it is if no marker is found in it. -/
theorem replaceFrom_append_of_none {b : Bool} {p u : Text}
    (h : ∀ y x, p = y ++ x → x ≠ [] → find (endsLine b y) (x ++ u) = none) :
    replaceFrom find 0 b (p ++ u) = p ++ replaceFrom find 0 (endsLine b p) u := by
  induction p generalizing b with
  | nil => rfl
  | cons c p ih =>
    have hhere : find b (c :: (p ++ u)) = none := h [] (c :: p) rfl (List.cons_ne_nil c p)
    have hrest := ih fun y x hyx => h (c :: y) x (congrArg (c :: ·) hyx)
    rw [List.cons_append, replaceFrom, hhere]
    exact congrArg (c :: ·) hrest

/-- A text stays as it is if no marker is found in it. -/
theorem replaceFrom_of_none {b : Bool} {t : Text}
    (h : ∀ y x, t = y ++ x → x ≠ [] → find (endsLine b y) x = none) :
    replaceFrom find 0 b t = t := by
  have hkeep : replaceFrom find 0 b (t ++ []) = t ++ replaceFrom find 0 (endsLine b t) [] :=
    replaceFrom_append_of_none fun y x hyx hx => by rw [List.append_nil, h y x hyx hx]
  rw [List.append_nil] at hkeep
  exact hkeep.trans (List.append_nil t)

/-- Replacing only deletes characters of a class, if it does so in every marker. -/
private theorem deletes_replaceFrom {p : Char → Bool}
    (h : ∀ b t hit, find b t = some hit → Deletes p (t.take (hit.more + 1)) hit.kept)
    (skip : Nat) (b : Bool) (t : Text) : Deletes p (t.drop skip) (replaceFrom find skip b t) := by
  induction t generalizing skip b with
  | nil => simpa [replaceFrom] using Deletes.refl p []
  | cons c t ih =>
    cases skip with
    | succ skip => exact ih skip _
    | zero =>
      rw [replaceFrom, List.drop_zero]
      cases hfind : find b (c :: t) with
      | none => exact (ih 0 _).cons c
      | some hit =>
        have hsplit : c :: t = (c :: t).take (hit.more + 1) ++ t.drop hit.more :=
          (List.take_append_drop (hit.more + 1) (c :: t)).symm
        rw [hsplit]
        exact (h b (c :: t) hit hfind).append (ih hit.more _)

theorem deletes_replaceAll {p : Char → Bool}
    (h : ∀ b t hit, find b t = some hit → Deletes p (t.take (hit.more + 1)) hit.kept) (t : Text) :
    Deletes p t (replaceAll find t) :=
  deletes_replaceFrom h 0 true t

end Scan

/-! ### White space at the head -/

/-- The text does not begin with white space. -/
def StartsBare (t : Text) : Prop := ∀ c r, t = c :: r → isBlank c = false

theorem startsBare_nil : StartsBare [] := fun _ _ h => nomatch h

theorem StartsBare.append {t u : Text} (ht : StartsBare t) (hu : t = [] → StartsBare u) :
    StartsBare (t ++ u) := by
  cases t with
  | nil => exact hu rfl
  | cons c t =>
    intro d r h
    obtain ⟨rfl, -⟩ := List.cons_eq_cons.1 h
    exact ht c t rfl

theorem StartsBare.of_append {t u : Text} (h : StartsBare (t ++ u)) : StartsBare t := by
  rintro c r rfl
  exact h c (r ++ u) rfl

/-- Every text is white space and a text that does not begin with any. -/
theorem exists_blank_append (t : Text) :
    ∃ w rest, t = w ++ rest ∧ allBlank w = true ∧ StartsBare rest := by
  induction t with
  | nil => exact ⟨[], [], rfl, rfl, startsBare_nil⟩
  | cons c t ih =>
    by_cases hc : isBlank c = true
    · obtain ⟨w, rest, rfl, hw, hrest⟩ := ih
      exact ⟨c :: w, rest, rfl, by simpa [allBlank, hc] using hw, hrest⟩
    · refine ⟨[], c :: t, rfl, rfl, fun d r h => ?_⟩
      obtain ⟨rfl, -⟩ := List.cons_eq_cons.1 h
      simpa using hc

theorem blankCount_append {w rest : Text} (hw : allBlank w = true) (hrest : StartsBare rest) :
    blankCount (w ++ rest) = w.length := by
  have hnone : rest.takeWhile isBlank = [] := by
    cases rest with
    | nil => rfl
    | cons c r => simp [hrest c r rfl]
  rw [blankCount, List.takeWhile_append_of_pos (allBlank_eq_true_iff.1 hw), hnone, List.append_nil]

/-- White space at the head of a text is where the rest begins. -/
theorem blank_append_inj {w w' t t' : Text} (hw : allBlank w = true) (hw' : allBlank w' = true)
    (ht : StartsBare t) (ht' : StartsBare t') (h : w ++ t = w' ++ t') : w = w' ∧ t = t' := by
  have hlen := congrArg blankCount h
  rw [blankCount_append hw ht, blankCount_append hw' ht'] at hlen
  exact List.append_inj h hlen

theorem markerHit_eq_some_iff {n : Nat} {t : Text} {hit : Hit} :
    markerHit n t = some hit ↔
      ∃ w rest, t = w ++ rest ∧ w ≠ [] ∧ allBlank w = true ∧ StartsBare rest ∧
        hit = ⟨n - 1 + w.length, []⟩ := by
  obtain ⟨w, rest, rfl, hw, hrest⟩ := exists_blank_append t
  have hcount := blankCount_append hw hrest
  constructor
  · intro h
    unfold markerHit at h
    split at h
    · cases h
    · next hsome =>
      cases h
      refine ⟨w, rest, rfl, fun hnil => hsome ?_, hw, hrest, by rw [hcount]⟩
      rw [hcount, hnil]
      rfl
  · rintro ⟨w', rest', hsplit, hne, hw', hrest', rfl⟩
    have hlen : blankCount (w ++ rest) = w'.length := hsplit ▸ blankCount_append hw' hrest'
    unfold markerHit
    split
    · next hzero =>
      rw [hlen] at hzero
      exact absurd (List.length_eq_zero_iff.1 hzero) hne
    · rw [hlen]

/-! ### Markers with white space behind them -/

/-- The finder finds the markers in `IsMarker` with white space behind them, and takes all of that
white space. -/
structure FindsMarkers (find : Finder) (IsMarker : Bool → Text → Prop) : Prop where
  ne_nil : ∀ {b m}, IsMarker b m → m ≠ []
  unbroken : ∀ {b m}, IsMarker b m → Unbroken m
  find_eq_some_iff : ∀ {b t hit}, find b t = some hit ↔
    ∃ m w rest, t = m ++ (w ++ rest) ∧ IsMarker b m ∧ w ≠ [] ∧ allBlank w = true ∧
      StartsBare rest ∧ hit = ⟨m.length - 1 + w.length, []⟩

namespace FindsMarkers

variable {find : Finder} {IsMarker : Bool → Text → Prop}

theorem fits (hf : FindsMarkers find IsMarker) : Fits find := by
  intro b t hit h
  obtain ⟨m, w, rest, rfl, hm, -, -, -, rfl⟩ := hf.find_eq_some_iff.1 h
  have hpos := List.length_pos_iff.2 (hf.ne_nil hm)
  simp only [List.length_append]
  omega

/-- White space separates a piece from what follows it, unless the piece ends with a marker, up to
white space. -/
theorem separates_of_blank (hf : FindsMarkers find IsMarker) {b : Bool} {a u : Text}
    (hu : ∀ c r, u = c :: r → isBlank c = true)
    (hopen : ∀ y m w, a = y ++ (m ++ w) → IsMarker (endsLine b y) m → allBlank w = true → False) :
    Separates find b a u := by
  intro y x hyx hx
  refine Option.ext fun hit => ⟨fun h => ?_, fun h => ?_⟩
  · obtain ⟨m, w, rest, hsplit, hm, hw, hblank, hrest, rfl⟩ := hf.find_eq_some_iff.1 h
    rcases List.append_eq_append_iff.1 hsplit with ⟨m', rfl, hu'⟩ | ⟨x', rfl, hx'⟩
    · -- The marker would end behind the piece, but no marker holds white space.
      cases m' with
      | nil => exact (hopen y x [] (by rw [hyx, List.append_nil]) (by simpa using hm) rfl).elim
      | cons c m' =>
        have hc := unbroken_iff.1 (hf.unbroken hm) c (by simp)
        rw [hu c _ hu'] at hc
        cases hc
    · -- If its white space reaches the end of the piece, the piece is open.
      rcases List.append_eq_append_iff.1 hx' with ⟨w', rfl, hrest'⟩ | ⟨w', rfl, -⟩
      · cases w' with
        | nil => exact (hopen y m w (by rw [hyx, List.append_nil]) hm hblank).elim
        | cons c w' =>
          exact hf.find_eq_some_iff.2
            ⟨m, w, c :: w', rfl, hm, hw, hblank, (hrest' ▸ hrest).of_append, rfl⟩
      · rw [allBlank_append, Bool.and_eq_true] at hblank
        exact (hopen y m x' hyx hm hblank.1).elim
  · obtain ⟨m, w, rest, rfl, hm, hw, hblank, hrest, rfl⟩ := hf.find_eq_some_iff.1 h
    refine hf.find_eq_some_iff.2 ⟨m, w, rest ++ u, by simp, hm, hw, hblank, ?_, rfl⟩
    refine hrest.append fun hnil => ?_
    exact (hopen y m w (by rw [hyx, hnil, List.append_nil]) hm hblank).elim

/-- A piece that ends with white space, or is empty, is separated from what begins with something
else. -/
theorem separates_of_startsBare (hf : FindsMarkers find IsMarker) {b : Bool} {a u : Text}
    (hu : StartsBare u) (ha : ∀ y c, a = y ++ [c] → isBlank c = true) : Separates find b a u := by
  intro y x hyx hx
  refine Option.ext fun hit => ⟨fun h => ?_, fun h => ?_⟩
  · obtain ⟨m, w, rest, hsplit, hm, hw, hblank, hrest, rfl⟩ := hf.find_eq_some_iff.1 h
    rcases List.append_eq_append_iff.1 hsplit with ⟨m', rfl, -⟩ | ⟨x', rfl, hx'⟩
    · -- The marker would hold the last character of the piece.
      obtain ⟨x', c, rfl⟩ := x.eq_nil_or_concat'.resolve_left hx
      have hc := unbroken_iff.1 (hf.unbroken hm) c (by simp)
      rw [ha (y ++ x') c (by rw [hyx, List.append_assoc])] at hc
      cases hc
    · refine hf.find_eq_some_iff.2 ?_
      rcases List.append_eq_append_iff.1 hx' with ⟨w', rfl, hrest'⟩ | ⟨w', rfl, hu'⟩
      · exact ⟨m, w, w', rfl, hm, hw, hblank, (hrest' ▸ hrest).of_append, rfl⟩
      · cases w' with
        | nil =>
          rw [List.append_nil] at hw hblank ⊢
          exact ⟨m, x', [], by simp, hm, hw, hblank, startsBare_nil, rfl⟩
        | cons c w' =>
          have hc := hu c _ hu'
          rw [allBlank_eq_true_iff.1 hblank c (by simp)] at hc
          cases hc
  · obtain ⟨m, w, rest, rfl, hm, hw, hblank, hrest, rfl⟩ := hf.find_eq_some_iff.1 h
    exact hf.find_eq_some_iff.2 ⟨m, w, rest ++ u, by simp, hm, hw, hblank,
      hrest.append fun _ => hu, rfl⟩

/-- No marker begins with white space. -/
theorem replaceFrom_blank_append (hf : FindsMarkers find IsMarker) (b : Bool) {w : Text}
    (hw : allBlank w = true) (t : Text) :
    replaceFrom find 0 b (w ++ t) = w ++ replaceFrom find 0 (endsLine b w) t := by
  refine replaceFrom_append_of_none fun y x hyx hx => ?_
  refine Option.eq_none_iff_forall_ne_some.2 fun hit h => ?_
  obtain ⟨m, w', rest, hsplit, hm, -⟩ := hf.find_eq_some_iff.1 h
  obtain ⟨d, m, rfl⟩ := List.exists_cons_of_ne_nil (hf.ne_nil hm)
  obtain ⟨c, x, rfl⟩ := List.exists_cons_of_ne_nil hx
  have hd := unbroken_iff.1 (hf.unbroken hm) d (by simp)
  have hc := allBlank_eq_true_iff.1 hw c (by simp [hyx])
  rw [← (List.cons_eq_cons.1 hsplit).1, hc] at hd
  cases hd

/-- Where markers stand at the start of a line only, the rest of a line stays. -/
theorem replaceFrom_false_append (hf : FindsMarkers find IsMarker) (hline : ∀ m, ¬IsMarker false m)
    {t : Text} (ht : '\n' ∉ t) (u : Text) :
    replaceFrom find 0 false (t ++ u) = t ++ replaceFrom find 0 false u := by
  have hmid : ∀ y x, t = y ++ x → endsLine false y = false := fun y x hyx =>
    endsLine_false_of_newline_notMem fun hmem => ht (hyx ▸ List.mem_append_left x hmem)
  rw [replaceFrom_append_of_none, hmid t [] (List.append_nil t).symm]
  intro y x hyx _
  rw [hmid y x hyx]
  refine Option.eq_none_iff_forall_ne_some.2 fun hit h => ?_
  obtain ⟨m, -, -, -, hm, -⟩ := hf.find_eq_some_iff.1 h
  exact hline m hm

/-- A text without white space stays as it is. -/
theorem replaceFrom_of_unbroken (hf : FindsMarkers find IsMarker) (b : Bool) {t : Text}
    (ht : Unbroken t) : replaceFrom find 0 b t = t := by
  rw [unbroken_iff] at ht
  refine replaceFrom_of_none fun y x hyx _ => ?_
  refine Option.eq_none_iff_forall_ne_some.2 fun hit h => ?_
  obtain ⟨m, w, rest, rfl, -, hw, hblank, -⟩ := hf.find_eq_some_iff.1 h
  obtain ⟨d, w, rfl⟩ := List.exists_cons_of_ne_nil hw
  have hd := ht d (by rw [hyx]; simp)
  rw [allBlank_eq_true_iff.1 hblank d (by simp)] at hd
  cases hd

/-- A marker goes together with the white space behind it. -/
theorem replaceFrom_marker (hf : FindsMarkers find IsMarker) {b : Bool} {m w rest : Text}
    (hm : IsMarker b m) (hw : w ≠ []) (hblank : allBlank w = true) (hrest : StartsBare rest) :
    replaceFrom find 0 b (m ++ (w ++ rest)) = replaceFrom find 0 (endsLine true w) rest := by
  have hfind := hf.find_eq_some_iff.2 ⟨m, w, rest, rfl, hm, hw, hblank, hrest, rfl⟩
  obtain ⟨c, m, rfl⟩ := List.exists_cons_of_ne_nil (hf.ne_nil hm)
  have hlen : (c :: m).length - 1 + w.length = (m ++ w).length := by simp
  have hshape : (c :: m) ++ (w ++ rest) = c :: ((m ++ w) ++ rest) := by simp
  rw [hlen, hshape] at hfind
  rw [hshape, replaceFrom_of_hit hfind, List.nil_append, ← List.cons_append, endsLine_append,
    endsLine_of_ne_nil hw _ true]

/-- Markers and white space are all that goes. -/
theorem deletes_replaceAll (hf : FindsMarkers find IsMarker) {p : Char → Bool}
    (hblank : ∀ c, isBlank c = true → p c = true)
    (hmarker : ∀ b m, IsMarker b m → ∀ c ∈ m, p c = true) (t : Text) :
    Deletes p t (replaceAll find t) := by
  refine PlainText.deletes_replaceAll (fun b t hit h => ?_) t
  obtain ⟨m, w, rest, rfl, hm, -, hw, -, rfl⟩ := hf.find_eq_some_iff.1 h
  have hpos := List.length_pos_iff.2 (hf.ne_nil hm)
  have htake : (m ++ (w ++ rest)).take (m.length - 1 + w.length + 1) = m ++ w := by
    rw [← List.append_assoc]
    refine List.take_left' ?_
    rw [List.length_append]
    omega
  have hwhite : ∀ c ∈ w, p c = true := fun c hc => hblank c (allBlank_eq_true_iff.1 hw c hc)
  rw [htake]
  exact .of_forall (List.forall_mem_append.2 ⟨hmarker b m hm, hwhite⟩)

/-- What holds of the ways in which a text is replaced: a character is kept, or a marker goes with
the white space behind it. -/
theorem replaceFrom_induction (hf : FindsMarkers find IsMarker) {motive : Bool → Text → Text → Prop}
    (nil : ∀ b, motive b [] [])
    (keep : ∀ b c t u, motive (c == '\n') t u → motive b (c :: t) (c :: u))
    (take : ∀ b m w rest u, IsMarker b m → w ≠ [] → StartsBare rest →
      motive (endsLine true w) rest u → motive b (m ++ (w ++ rest)) u)
    (b : Bool) (t : Text) : motive b t (replaceFrom find 0 b t) := by
  -- The length decreases by more than one character where a marker goes.
  induction hn : t.length using Nat.strongRecOn generalizing b t with
  | ind n ih =>
    subst hn
    cases t with
    | nil => exact nil b
    | cons c t =>
      cases hfind : find b (c :: t) with
      | none =>
        have hkeep : replaceFrom find 0 b (c :: t) = c :: replaceFrom find 0 (c == '\n') t := by
          rw [replaceFrom, hfind]
        rw [hkeep]
        exact keep b c t _ (ih t.length (Nat.lt_succ_self _) (c == '\n') t rfl)
      | some hit =>
        obtain ⟨m, w, rest, hsplit, hm, hw, hblank, hrest, -⟩ := hf.find_eq_some_iff.1 hfind
        have hlen : rest.length < (c :: t).length := by
          have hpos := List.length_pos_iff.2 hw
          rw [hsplit]
          simp only [List.length_append]
          omega
        rw [hsplit, hf.replaceFrom_marker hm hw hblank hrest]
        exact take b m w rest _ hm hw hrest (ih rest.length hlen (endsLine true w) rest rfl)

/-- What is left behind markers does not begin with white space. -/
theorem startsBare_replaceFrom (hf : FindsMarkers find IsMarker) (b : Bool) {t : Text}
    (ht : StartsBare t) : StartsBare (replaceFrom find 0 b t) := by
  refine hf.replaceFrom_induction (motive := fun _ t u => StartsBare t → StartsBare u)
    (fun _ h => h) ?_ ?_ b t ht
  · intro b c t u _ hc d r hdr
    obtain ⟨rfl, -⟩ := List.cons_eq_cons.1 hdr
    exact hc c t rfl
  · exact fun b m w rest u _ _ hrest hu _ => hu hrest

/-- Where markers stand at the start of a line only, a text that ends a line still does so. -/
theorem endsLine_replaceAll (hf : FindsMarkers find IsMarker) (hline : ∀ m, ¬IsMarker false m)
    {t : Text} (ht : endsLine true t = true) : endsLine true (replaceAll find t) = true := by
  refine hf.replaceFrom_induction
    (motive := fun b t u => endsLine b t = true → endsLine b u = true)
    (fun _ h => h) (fun _ _ _ _ hu h => hu h) ?_ true t ht
  intro b m w rest u hm hw _ hu h
  obtain rfl : b = true := by
    cases b with
    | false => exact absurd hm (hline m)
    | true => rfl
  rw [endsLine_append, endsLine_append, endsLine_of_ne_nil hw _ true] at h
  -- What is left stands where the marker stood, at the start of a line.
  have hrest := hu h
  cases u with
  | nil => rfl
  | cons c u => exact hrest

/-! ### Seams -/

/-- **A piece that is not open is replaced by itself**, if an empty line follows it. -/
theorem replaceAll_append_empty_line (hf : FindsMarkers find IsMarker) {p : Text}
    (hopen : ∀ y m w, p = y ++ (m ++ w) → IsMarker (endsLine true y) m → allBlank w = true → False)
    (r : Text) :
    replaceAll find (p ++ '\n' :: '\n' :: r) =
      replaceAll find p ++ '\n' :: '\n' :: replaceAll find r := by
  have hblank : ∀ c u, '\n' :: '\n' :: r = c :: u → isBlank c = true := by
    intro c u h
    rw [← (List.cons_eq_cons.1 h).1]
    decide
  have hnewlines : allBlank ['\n', '\n'] = true := by decide
  have hsep := hf.replaceFrom_blank_append (endsLine true p) hnewlines r
  rw [replaceAll_append hf.fits (hf.separates_of_blank hblank hopen)]
  exact congrArg (replaceAll find p ++ ·) hsep

/-- White space before a text stays, and decides whether a line begins behind it. -/
theorem replaceAll_blank_append (hf : FindsMarkers find IsMarker) {w : Text}
    (hw : allBlank w = true) (t : Text) :
    replaceAll find (w ++ t) = w ++ replaceFrom find 0 (endsLine true w) t :=
  hf.replaceFrom_blank_append true hw t

/-- A text that ends a line does not change what is replaced behind it, if no white space follows.
-/
theorem replaceAll_append_startsBare (hf : FindsMarkers find IsMarker) {q u : Text}
    (hq : endsLine true q = true) (hu : StartsBare u) :
    replaceAll find (q ++ u) = replaceAll find q ++ replaceFrom find 0 true u := by
  have hlast : ∀ y c, q = y ++ [c] → isBlank c = true := by
    rintro y c rfl
    obtain rfl : c = '\n' := by simpa using hq
    decide
  rw [replaceAll_append hf.fits (hf.separates_of_startsBare hu hlast), hq]

section Open

variable {q m : Text}

/-- Markers hold no white space, so they do not begin with it. -/
theorem startsBare_marker (hf : FindsMarkers find IsMarker) {b : Bool} (hm : IsMarker b m)
    (u : Text) : StartsBare (m ++ u) := by
  refine StartsBare.append (fun c r h => ?_) fun hnil => absurd hnil (hf.ne_nil hm)
  exact unbroken_iff.1 (hf.unbroken hm) c (by simp [h])

/-- An open marker with white space behind it goes. -/
theorem replaceAll_open (hf : FindsMarkers find IsMarker) (hq : endsLine true q = true)
    (hm : IsMarker true m) {w : Text} (hw : w ≠ []) (hblank : allBlank w = true) :
    replaceAll find (q ++ (m ++ w)) = replaceAll find q := by
  have hmarker := hf.replaceFrom_marker hm hw hblank startsBare_nil
  rw [List.append_nil] at hmarker
  rw [hf.replaceAll_append_startsBare hq (hf.startsBare_marker hm w), hmarker]
  exact List.append_nil _

/-- An open marker without white space behind it stays. -/
theorem replaceAll_open_nil (hf : FindsMarkers find IsMarker) (hq : endsLine true q = true)
    (hm : IsMarker true m) : replaceAll find (q ++ m) = replaceAll find q ++ m := by
  have hbare := hf.startsBare_marker hm []
  rw [List.append_nil] at hbare
  rw [hf.replaceAll_append_startsBare hq hbare,
    hf.replaceFrom_of_unbroken true (hf.unbroken hm)]

/-- **An open marker takes the empty line behind it**, and the white space that follows that. -/
theorem replaceAll_open_append (hf : FindsMarkers find IsMarker) (hq : endsLine true q = true)
    (hm : IsMarker true m) {w lead rest : Text} (hw : allBlank w = true)
    (hlead : allBlank lead = true) (hrest : StartsBare rest) :
    replaceAll find (q ++ (m ++ w) ++ '\n' :: '\n' :: (lead ++ rest)) =
      replaceAll find q ++ replaceFrom find 0 (endsLine true lead) rest := by
  have hshape : q ++ (m ++ w) ++ '\n' :: '\n' :: (lead ++ rest) =
      q ++ (m ++ ((w ++ '\n' :: '\n' :: lead) ++ rest)) := by simp
  have hblank : allBlank (w ++ '\n' :: '\n' :: lead) = true := by
    rw [allBlank_append, hw, Bool.true_and]
    simpa [allBlank, show isBlank '\n' = true by decide] using hlead
  rw [hshape, hf.replaceAll_append_startsBare hq (hf.startsBare_marker hm _),
    hf.replaceFrom_marker hm (by simp) hblank hrest, endsLine_append]
  rfl

/-- An open marker without white space behind it goes only if something follows. -/
theorem count_open_lt (hf : FindsMarkers find IsMarker) (hq : endsLine true q = true)
    (hm : IsMarker true m) {c : Char} (hc : c ∈ m) (r : Text) :
    (replaceAll find (q ++ m ++ '\n' :: '\n' :: r)).count c <
      (replaceAll find (q ++ m)).count c + (replaceAll find r).count c := by
  obtain ⟨lead, rest, rfl, hlead, hrest⟩ := exists_blank_append r
  have hnil : allBlank [] = true := rfl
  have hall := hf.replaceAll_open_append hq hm hnil hlead hrest
  rw [List.append_nil] at hall
  have hpos := List.count_pos_iff.2 hc
  rw [hall, hf.replaceAll_open_nil hq hm, hf.replaceAll_blank_append hlead]
  simp only [List.count_append]
  omega

end Open

/-- **Two pieces with an empty line between them.** Either each is replaced by itself; or the first
ends with a marker, up to white space, and the marker takes the white space between them. -/
theorem replaceAll_seam (hf : FindsMarkers find IsMarker) (hline : ∀ m, ¬IsMarker false m)
    (p r : Text) :
    replaceAll find (p ++ '\n' :: '\n' :: r) =
        replaceAll find p ++ '\n' :: '\n' :: replaceAll find r ∨
      ∃ q m w lead z, p = q ++ (m ++ w) ∧ endsLine true q = true ∧ IsMarker true m ∧
        allBlank w = true ∧ allBlank lead = true ∧ StartsBare z ∧
        replaceAll find r = lead ++ z ∧
        replaceAll find (p ++ '\n' :: '\n' :: r) = replaceAll find q ++ z := by
  by_cases hopen : ∃ q m w, p = q ++ (m ++ w) ∧ endsLine true q = true ∧ IsMarker true m ∧
      allBlank w = true
  · obtain ⟨q, m, w, rfl, hq, hm, hw⟩ := hopen
    obtain ⟨lead, rest, rfl, hlead, hrest⟩ := exists_blank_append r
    exact Or.inr ⟨q, m, w, lead, _, rfl, hq, hm, hw, hlead, hf.startsBare_replaceFrom _ hrest,
      hf.replaceAll_blank_append hlead rest, hf.replaceAll_open_append hq hm hw hlead hrest⟩
  · refine Or.inl (hf.replaceAll_append_empty_line (fun q m w hp hm hw => hopen ?_) r)
    cases hq : endsLine true q with
    | false => exact absurd (hq ▸ hm) (hline m)
    | true => exact ⟨q, m, w, hp, hq, hq ▸ hm, hw⟩

end FindsMarkers

end ServiceCharter.PlainText

import ServiceCharter.Proofs.Json.Locality

/-!
# Numerals end where their characters end

The readers of numerals are local (`local_readUnsigned`): each stops at the first character that
does not go on with the numeral, and looks no further. A numeral at the end of a text is therefore
read like the same numeral with white space behind it.
-/

namespace ServiceCharter.Json.Numeral

/-! ### Digits -/

theorem digit?_eq_none_iff {c : Char} : digit? c = none ↔ c.isDigit = false := by
  simp [digit?]

private theorem isDigit_of_digit? {c : Char} {d : Nat} (h : digit? c = some d) :
    c.isDigit = true := by
  by_contra hc
  rw [digit?_eq_none_iff.2 (by simpa using hc)] at h
  cases h

private theorem drop_length_takeWhile {α : Type} (p : α → Bool) (l : List α) :
    l.drop (l.takeWhile p).length = l.dropWhile p := by
  have h : (l.takeWhile p ++ l.dropWhile p).drop (l.takeWhile p).length = l.dropWhile p :=
    List.drop_left
  rwa [List.takeWhile_append_dropWhile] at h

/-- A run of elements goes no further if what follows it begins like what followed it before. -/
private theorem takeWhile_append_of_head? {α : Type} {p : α → Bool} {l rest : List α}
    (h : rest.head? = (l.dropWhile p).head?) :
    (l.takeWhile p ++ rest).takeWhile p = l.takeWhile p := by
  have hnil : rest.takeWhile p = [] := by
    cases rest with
    | nil => rfl
    | cons a rest =>
      obtain ⟨r, hr⟩ := List.head?_eq_some_iff.1 h.symm
      have hne : l.dropWhile p ≠ [] := by simp [hr]
      have hhead := List.head_dropWhile_not p hne
      simp only [hr, List.head_cons] at hhead
      simp [hhead]
  rw [List.takeWhile_append_of_pos fun a ha => List.mem_takeWhile_imp ha, hnil, List.append_nil]

private theorem dropWhile_append_of_head? {α : Type} {p : α → Bool} {l rest : List α}
    (h : rest.head? = (l.dropWhile p).head?) : (l.takeWhile p ++ rest).dropWhile p = rest := by
  rw [← drop_length_takeWhile, takeWhile_append_of_head? h, List.drop_left]

private theorem local_dropWhile (p : Char → Bool) :
    Local fun t => (.ok ((), t.dropWhile p) : Except Fault (Unit × Text)) := by
  rintro t a rest h
  cases h
  refine ⟨t.takeWhile p, List.takeWhile_append_dropWhile.symm, fun rest' hhead => ?_⟩
  simp only [dropWhile_append_of_head? hhead]

/-- Digits are a piece at the head of the text, and depend on that and the next character only. -/
theorem Digits.exists_read_eq (significand used : Nat) (t : Text) :
    ∃ piece, t = piece ++ (read significand used t).rest ∧
      ∀ rest', rest'.head? = (read significand used t).rest.head? →
        read significand used (piece ++ rest') =
          { read significand used t with rest := rest' } := by
  induction t generalizing significand used with
  | nil =>
    refine ⟨[], rfl, fun rest' hhead => ?_⟩
    obtain rfl := List.head?_eq_none_iff.1 hhead
    rfl
  | cons c t ih =>
    cases hd : digit? c with
    | none =>
      have hread : ∀ r, read significand used (c :: r) = ⟨significand, used, 0, c :: r⟩ :=
        fun r => by simp [read, hd]
      rw [hread]
      refine ⟨[], rfl, fun rest' hhead => ?_⟩
      obtain ⟨r', rfl⟩ := List.head?_eq_some_iff.1 hhead
      exact hread r'
    | some d =>
      by_cases hfits : significand * 10 + d ≤ limit
      · have hread : ∀ r, read significand used (c :: r) =
            read (significand * 10 + d) (used + 1) r := fun r => by simp [read, hd, hfits]
        obtain ⟨piece, hsplit, hpiece⟩ := ih (significand * 10 + d) (used + 1)
        rw [hread]
        refine ⟨c :: piece, congrArg (c :: ·) hsplit, fun rest' hhead => ?_⟩
        rw [List.cons_append, hread, hpiece rest' hhead]
      · -- All digits that are left are dropped, and no digit stands behind them.
        have hread : ∀ r, read significand used (c :: r) =
            ⟨significand, used, ((c :: r).takeWhile Char.isDigit).length,
              (c :: r).dropWhile Char.isDigit⟩ := fun r => by
          simp [read, hd, hfits, ← drop_length_takeWhile]
        have hdigits : (c :: t).takeWhile Char.isDigit = c :: t.takeWhile Char.isDigit :=
          List.takeWhile_cons_of_pos (isDigit_of_digit? hd)
        rw [hread]
        refine ⟨(c :: t).takeWhile Char.isDigit, List.takeWhile_append_dropWhile.symm,
          fun rest' hhead => ?_⟩
        have htake := takeWhile_append_of_head? hhead
        have hdrop := dropWhile_append_of_head? hhead
        rw [hdigits] at htake hdrop ⊢
        rw [List.cons_append] at htake hdrop ⊢
        rw [hread, htake, hdrop]

/-- A reader that goes on behind digits. -/
private theorem local_afterDigits {α : Type} {next : Digits → Except Fault (α × Text)}
    (hnext : ∀ ds : Digits, Local fun t => next { ds with rest := t }) (significand used : Nat) :
    Local fun t => next (Digits.read significand used t) := by
  rintro t a rest h
  obtain ⟨piece₁, hsplit, h₁⟩ := Digits.exists_read_eq significand used t
  obtain ⟨piece₂, hrest, h₂⟩ := hnext (Digits.read significand used t) h
  refine ⟨piece₁ ++ piece₂, by rw [List.append_assoc, ← hrest, ← hsplit], fun rest' hhead => ?_⟩
  have hmid : (piece₂ ++ rest').head? = (Digits.read significand used t).rest.head? :=
    hrest ▸ head?_append_congr piece₂ hhead
  simp only [List.append_assoc, h₁ _ hmid]
  exact h₂ rest' hhead

private theorem local_double (negative : Bool) (significand : Nat) (exponent : Int) :
    Local (double negative significand exponent) := by
  cases hs : scale? (Float.ofNat significand) exponent with
  | none => exact Local.of_ne_ok fun t x => by simp [double, hs]
  | some f =>
    have hread : double negative significand exponent =
        fun t => .ok (.double (if negative then -f else f).toBits, t) := by
      funext t
      simp [double, hs]
    exact hread ▸ Local.pure _

private theorem local_readExponentDigits (exponent : Nat) :
    Local (readExponentDigits exponent) := by
  intro t
  induction t generalizing exponent with
  | nil =>
    rintro n rest h
    cases h
    refine ⟨[], rfl, fun rest' hhead => ?_⟩
    obtain rfl := List.head?_eq_none_iff.1 hhead
    rfl
  | cons c t ih =>
    rintro n rest h
    cases hd : digit? c with
    | none =>
      simp only [readExponentDigits, hd] at h
      cases h
      refine ⟨[], rfl, fun rest' hhead => ?_⟩
      obtain ⟨r', rfl⟩ := List.head?_eq_some_iff.1 hhead
      simp [readExponentDigits, hd]
    | some d =>
      by_cases hfits : exponent * 10 + d ≤ exponentLimit
      · simp only [readExponentDigits, hd, if_pos hfits] at h
        obtain ⟨piece, rfl, hpiece⟩ := ih _ h
        refine ⟨c :: piece, rfl, fun rest' hhead => ?_⟩
        simpa only [List.cons_append, readExponentDigits, hd, if_pos hfits] using
          hpiece rest' hhead
      · simp only [readExponentDigits, hd, if_neg hfits] at h
        cases h

/-- Whether an exponent is too great shows at a digit, whatever stands behind that. -/
private theorem exists_of_readExponentDigits_eq_error {exponent : Nat} {t rest : Text}
    (h : readExponentDigits exponent t = .error rest) :
    ∃ piece, t = piece ++ rest ∧
      ∀ rest', readExponentDigits exponent (piece ++ rest') = .error rest' := by
  induction t generalizing exponent with
  | nil => cases h
  | cons c t ih =>
    cases hd : digit? c with
    | none => simp [readExponentDigits, hd] at h
    | some d =>
      by_cases hfits : exponent * 10 + d ≤ exponentLimit
      · simp only [readExponentDigits, hd, if_pos hfits] at h
        obtain ⟨piece, rfl, hpiece⟩ := ih h
        refine ⟨c :: piece, rfl, fun rest' => ?_⟩
        simpa only [List.cons_append, readExponentDigits, hd, if_pos hfits] using hpiece rest'
      · simp only [readExponentDigits, hd, if_neg hfits, Except.error.injEq] at h
        obtain rfl := h
        exact ⟨[c], rfl, fun rest' => by simp [readExponentDigits, hd, hfits]⟩

/-- The number after the sign of its exponent. -/
private def afterSign (negative : Bool) (significand : Nat) (start : Int) (down : Bool) :
    Text → Except Fault (Number × Text)
  | [] => .error (.here .endInValue [])
  | c :: r =>
    match digit? c with
    | none => .error (.next .invalidNumber (c :: r))
    | some d =>
      match readExponentDigits d r with
      | .ok (e, rest) =>
        let exponent := if down then start - e else start + e
        let bounded := max (-(exponentLimit : Int) - 1) (min exponent exponentLimit)
        double negative significand bounded rest
      | .error rest =>
        if significand ≠ 0 ∧ !down then .error (.here .numberOutOfRange rest)
        else double negative 0 0 (rest.dropWhile Char.isDigit)

private theorem readExponent_cons (negative : Bool) (significand : Nat) (start : Int) (c : Char)
    (t : Text) :
    readExponent negative significand start (c :: t) =
      if c = '+' then afterSign negative significand start false t
      else if c = '-' then afterSign negative significand start true t
      else afterSign negative significand start false (c :: t) := by
  by_cases hplus : c = '+'
  · subst hplus
    rfl
  · by_cases hminus : c = '-'
    · subst hminus
      rfl
    · rw [if_neg hplus, if_neg hminus, readExponent]
      · rfl
      · exact fun t' h => hplus (List.cons_eq_cons.1 h).1
      · exact fun t' h => hminus (List.cons_eq_cons.1 h).1

private theorem local_afterSign (negative : Bool) (significand : Nat) (start : Int) (down : Bool) :
    Local (afterSign negative significand start down) := by
  refine Local.of_cons (by simp [afterSign]) fun c => ?_
  cases hd : digit? c with
  | none => exact Local.of_ne_ok (by simp [afterSign, hd])
  | some d =>
    rintro r n rest h
    simp only [afterSign, hd] at h
    cases hr : readExponentDigits d r with
    | ok x =>
      obtain ⟨e, mid⟩ := x
      simp only [hr] at h
      obtain ⟨piece₁, rfl, h₁⟩ := local_readExponentDigits d hr
      obtain ⟨piece₂, rfl, h₂⟩ := local_double _ _ _ h
      refine ⟨piece₁ ++ piece₂, (List.append_assoc _ _ _).symm, fun rest' hhead => ?_⟩
      have hmid := head?_append_congr piece₂ hhead
      simp only [afterSign, hd, List.append_assoc, h₁ _ hmid, h₂ rest' hhead]
    | error mid =>
      simp only [hr] at h
      split at h
      · cases h
      · next hzero =>
        obtain ⟨piece₁, rfl, h₁⟩ := exists_of_readExponentDigits_eq_error hr
        obtain ⟨piece₂, rfl, h₂⟩ :=
          (local_dropWhile Char.isDigit).bind (fun _ => local_double negative 0 0) h
        refine ⟨piece₁ ++ piece₂, (List.append_assoc _ _ _).symm, fun rest' hhead => ?_⟩
        simp only [afterSign, hd, List.append_assoc, h₁, if_neg hzero]
        exact h₂ rest' hhead

private theorem local_readExponent (negative : Bool) (significand : Nat) (start : Int) :
    Local (readExponent negative significand start) := by
  refine Local.of_cons_or (local_afterSign negative significand start false) rfl fun c => ?_
  simp only [readExponent_cons]
  by_cases hplus : c = '+'
  · simpa only [if_pos hplus] using Or.inl (local_afterSign negative significand start false)
  · by_cases hminus : c = '-'
    · simpa only [if_neg hplus, if_pos hminus] using
        Or.inl (local_afterSign negative significand start true)
    · exact Or.inr fun r => by rw [if_neg hplus, if_neg hminus]

/-- The number after its fraction digits. -/
private def afterFraction (negative : Bool) (start : Int) (ds : Digits) :
    Except Fault (Number × Text) :=
  if ds.used = 0 ∧ ds.dropped = 0 then .error (.next .invalidNumber ds.rest)
  else
    match ds.rest with
    | 'e' :: r => readExponent negative ds.significand (start - ds.used) r
    | 'E' :: r => readExponent negative ds.significand (start - ds.used) r
    | rest => double negative ds.significand (start - ds.used) rest

private theorem local_afterFraction (negative : Bool) (start : Int) (ds : Digits) :
    Local fun t => afterFraction negative start { ds with rest := t } := by
  by_cases hnone : ds.used = 0 ∧ ds.dropped = 0
  · exact Local.of_ne_ok (by simp [afterFraction, hnone])
  · simp only [afterFraction, if_neg hnone]
    have hexponent := local_readExponent negative ds.significand (start - ds.used)
    refine Local.of_cons_or (local_double negative ds.significand (start - ds.used)) rfl
      fun c => ?_
    by_cases he : c = 'e'
    · exact Or.inl (by simpa only [he] using hexponent)
    · by_cases hE : c = 'E'
      · exact Or.inl (by simpa only [hE] using hexponent)
      · exact Or.inr fun r => by simp [he, hE]

/-- Apart from the words of its errors, a fraction goes on behind its digits. -/
private theorem readFraction_eq_ok_iff {negative : Bool} {significand : Nat} {start : Int}
    {t : Text} {x : Number × Text} : readFraction negative significand start t = .ok x ↔
      afterFraction negative start (Digits.read significand 0 t) = .ok x := by
  rw [readFraction, afterFraction]
  split
  · simp
  · exact Iff.rfl

private theorem local_readFraction (negative : Bool) (significand : Nat) (start : Int) :
    Local (readFraction negative significand start) :=
  Local.of_iff (fun _ _ => readFraction_eq_ok_iff)
    (local_afterDigits (local_afterFraction negative start) significand 0)

private theorem local_readTail (negative : Bool) (ds : Digits) :
    Local fun t => readTail negative { ds with rest := t } := by
  have hplain : Local fun t : Text =>
      if ds.dropped ≠ 0 then double negative ds.significand ds.dropped t
      else if !negative then .ok (.integer ds.significand, t)
      else if ds.significand = 0 ∨ 1 <<< 63 < ds.significand then double true ds.significand 0 t
      else .ok (.integer (-(ds.significand : Int)), t) := by
    split
    · exact local_double _ _ _
    · split
      · exact Local.pure _
      · split
        · exact local_double _ _ _
        · exact Local.pure _
  have hexponent := local_readExponent negative ds.significand ds.dropped
  refine Local.of_cons_or hplain rfl fun c => ?_
  by_cases hpoint : c = '.'
  · exact Or.inl (hpoint ▸ local_readFraction negative ds.significand ds.dropped)
  · by_cases he : c = 'e'
    · exact Or.inl (he ▸ hexponent)
    · by_cases hE : c = 'E'
      · exact Or.inl (hE ▸ hexponent)
      · exact Or.inr fun r => by simp [readTail, hpoint, he, hE]

/-- A numeral consumes its first digit. -/
theorem local_readUnsigned_cons (negative : Bool) (c : Char) :
    Local fun r => readUnsigned negative (c :: r) := by
  match hd : digit? c with
  | none => exact Local.of_ne_ok (by simp [readUnsigned, hd])
  | some 0 =>
    -- Behind a leading zero no digit may stand.
    refine Local.of_cons_or (local_readTail negative ⟨0, 1, 0, []⟩) (by simp [readUnsigned, hd])
      fun d => ?_
    by_cases hdigit : d.isDigit = true
    · exact Or.inl (Local.of_ne_ok (by simp [readUnsigned, hd, hdigit]))
    · exact Or.inr fun r => by simp [readUnsigned, hd, hdigit]
  | some (d + 1) =>
    simpa only [readUnsigned, hd] using local_afterDigits (local_readTail negative) (d + 1) 1

theorem local_readUnsigned (negative : Bool) : Local (readUnsigned negative) :=
  Local.of_cons (by simp [readUnsigned]) (local_readUnsigned_cons negative)

end ServiceCharter.Json.Numeral

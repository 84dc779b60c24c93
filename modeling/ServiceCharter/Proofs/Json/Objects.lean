import ServiceCharter.Proofs.Json.Numerals

/-!
# Objects end at their closing brace

Lists and objects are read with fuel, element by element. `Step` says what one step along the
elements can be, for both kinds of brackets at once, and `Steps` that a reader makes such steps and
no others. A reader that does so depends on nothing behind the closing bracket, nor on how much fuel
it has left (`Steps.exists_body`). So values are local at any depth (`local_readValue`), and a text
that is read as an object is white space, the object and white space again, where the object by
itself is read as the same value (`exists_of_parse_object`).
-/

namespace ServiceCharter.Json

open Numeral

/-! ### Steps along elements -/

section Steps

variable {α β : Type} {close : Char} {element : Text → Except Fault (α × Text)}

/-- A step along the elements of a list or of an object: the closing bracket, or an element and what
`more` reads behind it. The flag says that no element has been read. -/
inductive Step (close : Char) (element : Text → Except Fault (α × Text))
    (more : Text → Except Fault (List α × Text)) : Bool → Text → List α → Text → Prop
  | closed {first t rest} (ht : skipSpace t = close :: rest) :
      Step close element more first t [] rest
  | first {t c r a s as rest} (ht : skipSpace t = c :: r) (hc : c ≠ close)
      (ha : element (c :: r) = .ok (a, s)) (hmore : more s = .ok (as, rest)) :
      Step close element more true t (a :: as) rest
  | next {t r c u a s as rest} (ht : skipSpace t = ',' :: r) (hr : skipSpace r = c :: u)
      (hc : c ≠ close) (ha : element (c :: u) = .ok (a, s)) (hmore : more s = .ok (as, rest)) :
      Step close element more false t (a :: as) rest

/-- The reader goes along elements in steps; its fuel bounds their number. -/
structure Steps (close : Char) (element : Text → Except Fault (α × Text))
    (read : Nat → Bool → Text → Except Fault (List α × Text)) : Prop where
  zero : ∀ {first t x}, read 0 first t ≠ .ok x
  succ : ∀ {fuel first t as rest}, read (fuel + 1) first t = .ok (as, rest) ↔
    Step close element (read fuel false) first t as rest

variable {read : Nat → Bool → Text → Except Fault (List α × Text)}

/-- **A reader of elements does not look behind the closing bracket**, and any fuel that exceeds the
length of its text is enough. -/
theorem Steps.exists_body (hread : Steps close element read) (helement : Local element)
    {fuel : Nat} {first : Bool} {t : Text} {as : List α} {rest : Text}
    (h : read fuel first t = .ok (as, rest)) :
    ∃ body, t = body ++ close :: rest ∧ ∀ rest' fuel',
      (body ++ close :: rest').length + first.toNat ≤ fuel' →
        read fuel' first (body ++ close :: rest') = .ok (as, rest') := by
  -- An element begins with the same character, whatever stands behind the bracket.
  have hcons : ∀ {piece body rest c r} (rest' : Text), c :: r = piece ++ (body ++ close :: rest) →
      ∃ r', piece ++ (body ++ close :: rest') = c :: r' := by
    intro piece body rest c r rest' hsplit
    have hclose : (close :: rest').head? = (close :: rest).head? := rfl
    refine List.head?_eq_some_iff.1 ?_
    rw [← List.append_assoc, head?_append_congr (piece ++ body) hclose, List.append_assoc, ← hsplit]
    rfl
  induction fuel generalizing first t as rest with
  | zero => exact absurd h hread.zero
  | succ fuel ih =>
    cases hread.succ.1 h with
    | closed ht =>
      obtain ⟨w, rfl, hw⟩ := exists_of_skipSpace ht
      refine ⟨w, rfl, fun rest' fuel' hfuel => ?_⟩
      rw [List.length_append, List.length_cons] at hfuel
      obtain ⟨k, rfl⟩ : ∃ k, fuel' = k + 1 := ⟨fuel' - 1, by omega⟩
      exact hread.succ.2 (.closed (hw _ rfl))
    | first ht hc ha hmore =>
      obtain ⟨w, rfl, hw⟩ := exists_of_skipSpace ht
      obtain ⟨piece, hsplit, hpiece⟩ := helement ha
      obtain ⟨body, rfl, hbody⟩ := ih hmore
      refine ⟨w ++ (piece ++ body), by simp [hsplit], fun rest' fuel' hfuel => ?_⟩
      obtain ⟨k, rfl⟩ : ∃ k, fuel' = k + 1 := ⟨fuel' - 1, by rw [Bool.toNat_true] at hfuel; omega⟩
      obtain ⟨r', hr'⟩ := hcons rest' hsplit
      have helem := hpiece (body ++ close :: rest') (head?_append_congr body rfl)
      rw [hr'] at helem
      simp only [List.append_assoc, hr']
      refine hread.succ.2 (.first (hw _ rfl) hc helem (hbody rest' k ?_))
      simp only [List.length_append, Bool.toNat_true, Bool.toNat_false] at hfuel ⊢
      omega
    | next ht hr hc ha hmore =>
      obtain ⟨w, rfl, hw⟩ := exists_of_skipSpace ht
      obtain ⟨w', rfl, hw'⟩ := exists_of_skipSpace hr
      obtain ⟨piece, hsplit, hpiece⟩ := helement ha
      obtain ⟨body, rfl, hbody⟩ := ih hmore
      refine ⟨w ++ ',' :: (w' ++ (piece ++ body)), by simp [hsplit], fun rest' fuel' hfuel => ?_⟩
      simp only [List.length_append, List.length_cons] at hfuel
      obtain ⟨k, rfl⟩ : ∃ k, fuel' = k + 1 := ⟨fuel' - 1, by omega⟩
      obtain ⟨r', hr'⟩ := hcons rest' hsplit
      have helem := hpiece (body ++ close :: rest') (head?_append_congr body rfl)
      rw [hr'] at helem
      simp only [List.append_assoc, List.cons_append, hr']
      refine hread.succ.2 (.next (hw _ rfl) (hw' _ rfl) hc helem (hbody rest' k ?_))
      simp only [List.length_append, List.length_cons, Bool.toNat_false]
      omega

/-- A list or an object, behind its opening bracket. -/
theorem Steps.local (hread : Steps close element read) (helement : Local element)
    (f : List α → β) : Local fun r => (read (r.length + 1) true r).map fun x => (f x.1, x.2) := by
  rintro r b rest h
  obtain ⟨⟨as, mid⟩, hr, hpair⟩ := map_eq_ok_iff.1 h
  cases hpair
  obtain ⟨body, rfl, hbody⟩ := hread.exists_body helement hr
  refine ⟨body ++ [close], by simp, fun rest' _ => ?_⟩
  have hagain := hbody rest' _ (Nat.le_refl _)
  rw [Bool.toNat_true] at hagain
  simp only [List.append_assoc, List.singleton_append, hagain]
  rfl

end Steps

/-! ### Lists and objects -/

section Items

variable {item : Text → Except Fault (Value × Text)}

private theorem steps_readItems : Steps ']' item (readItems item) where
  zero := by
    rintro first t x h
    cases h
  succ := by
    intro fuel first t vs rest
    constructor
    · intro h
      unfold readItems at h
      -- `more` reads an element and, with the fuel that is left, those behind it.
      extract_lets more at h
      have hmore : ∀ {u}, more u = .ok (vs, rest) → ∃ v vs' s, vs = v :: vs' ∧
          item u = .ok (v, s) ∧ readItems item fuel false s = .ok (vs', rest) := by
        intro u hu
        simp only [more] at hu
        split at hu
        · cases hu
        · next v s hitem =>
          split at hu
          · cases hu
          · next vs' rest' hitems =>
            cases hu
            exact ⟨v, vs', s, rfl, hitem, hitems⟩
      split at h
      · cases h
      · next c r ht =>
        split at h
        · next hc =>
          cases h
          exact .closed (hc ▸ ht)
        · next hc =>
          split at h
          · next hfirst =>
            obtain ⟨v, vs', s, rfl, hitem, hitems⟩ := hmore h
            exact hfirst ▸ .first ht hc hitem hitems
          · next hfirst =>
            rw [Bool.not_eq_true] at hfirst
            split at h
            · next hcomma =>
              split at h
              · cases h
              · next d u hr =>
                split at h
                · cases h
                · next hd =>
                  obtain ⟨v, vs', s, rfl, hitem, hitems⟩ := hmore h
                  exact hfirst ▸ .next (hcomma ▸ ht) hr hd hitem hitems
            · cases h
    · intro h
      cases h with
      | closed ht => simp [readItems, ht]
      | first ht hc hitem hmore => simp [readItems, ht, hc, hitem, hmore]
      | next ht hr hc hitem hmore => simp [readItems, ht, hr, hc, hitem, hmore]

/-- A member of an object: its name, and its value behind a colon. -/
def readMember (item : Text → Except Fault (Value × Text)) :
    Text → Except Fault ((String × Value) × Text)
  | [] => .error (.here .endInObject [])
  | c :: r =>
    if c = '"' then
      (readString r).bind fun x =>
        (readMemberValue item x.2).map fun y => ((String.ofList x.1, y.1), y.2)
    else .error (.next .expectedKey (c :: r))

private theorem skipSpace_skipSpace (t : Text) : skipSpace (skipSpace t) = skipSpace t := by
  cases h : skipSpace t with
  | nil => rfl
  | cons c r => exact skipSpace_cons_of_not (not_isSpace_of_skipSpace h) r

private theorem local_readMemberValue (hitem : Local item) : Local (readMemberValue item) := by
  refine Local.of_skipSpace (fun t => ?_) (by simp [readMemberValue, skipSpace]) fun c hc => ?_
  · rw [readMemberValue, skipSpace_skipSpace]
    rfl
  · have hread : ∀ r, readMemberValue item (c :: r) =
        if c = ':' then item r else .error (.next .expectedColon (c :: r)) := by
      intro r
      rw [readMemberValue, skipSpace_cons_of_not hc]
    simp only [hread]
    split
    · exact hitem
    · exact Local.of_ne_ok (by simp)

private theorem local_readMember (hitem : Local item) : Local (readMember item) := by
  refine Local.of_cons (by simp [readMember]) fun c => ?_
  by_cases hquote : c = '"'
  · simpa only [readMember, if_pos hquote] using
      local_readString.bind fun name =>
        (local_readMemberValue hitem).map fun v => (String.ofList name, v)
  · exact Local.of_ne_ok (by simp [readMember, hquote])

/-- A member begins with a quote, and consists of a name and a value. -/
private theorem of_readMember {t : Text} {m : String × Value} {rest : Text}
    (h : readMember item t = .ok (m, rest)) :
    ∃ r name s v, t = '"' :: r ∧ readString r = .ok (name, s) ∧
      readMemberValue item s = .ok (v, rest) ∧ m = (String.ofList name, v) := by
  cases t with
  | nil => cases h
  | cons c r =>
    rw [readMember] at h
    split at h
    · next hquote =>
      obtain ⟨⟨name, s⟩, hname, hmore⟩ := bind_eq_ok_iff.1 h
      obtain ⟨⟨v, mid⟩, hvalue, hpair⟩ := map_eq_ok_iff.1 hmore
      cases hpair
      exact ⟨r, name, s, v, by rw [hquote], hname, hvalue, rfl⟩
    · cases h

private theorem steps_readMembers : Steps '\x7d' (readMember item) (readMembers item) where
  zero := by
    rintro first t x h
    cases h
  succ := by
    intro fuel first t ms rest
    have hclose : '"' ≠ '\x7d' := by decide
    constructor
    · intro h
      unfold readMembers at h
      extract_lets more at h
      have hmore : ∀ {r}, more r = .ok (ms, rest) → ∃ m ms' s, ms = m :: ms' ∧
          readMember item ('"' :: r) = .ok (m, s) ∧
          readMembers item fuel false s = .ok (ms', rest) := by
        intro r hr
        simp only [more] at hr
        split at hr
        · cases hr
        · next name s hname =>
          split at hr
          · cases hr
          · next v s' hvalue =>
            split at hr
            · cases hr
            · next ms' rest' hmembers =>
              cases hr
              refine ⟨(String.ofList name, v), ms', s', rfl, ?_, hmembers⟩
              simp [readMember, hname, hvalue, Except.bind, Except.map]
      split at h
      · cases h
      · next c r ht =>
        split at h
        · next hc =>
          cases h
          exact .closed (hc ▸ ht)
        · split at h
          · next hfirst =>
            split at h
            · next hquote =>
              obtain ⟨m, ms', s, rfl, hmember, hmembers⟩ := hmore h
              exact hfirst ▸ .first (hquote ▸ ht) hclose hmember hmembers
            · cases h
          · next hfirst =>
            rw [Bool.not_eq_true] at hfirst
            split at h
            · next hcomma =>
              split at h
              · cases h
              · next d u hr =>
                split at h
                · next hquote =>
                  obtain ⟨m, ms', s, rfl, hmember, hmembers⟩ := hmore h
                  exact hfirst ▸ .next (hcomma ▸ ht) (hquote ▸ hr) hclose hmember hmembers
                · split at h <;> cases h
            · cases h
    · intro h
      cases h with
      | closed ht => simp [readMembers, ht]
      | first ht _ hm hmore =>
        obtain ⟨r, name, s, v, hquote, hname, hvalue, rfl⟩ := of_readMember hm
        simp [readMembers, ht.trans hquote, hname, hvalue, hmore]
      | next ht hr _ hm hmore =>
        obtain ⟨r, name, s, v, hquote, hname, hvalue, rfl⟩ := of_readMember hm
        simp [readMembers, ht, hr.trans hquote, hname, hvalue, hmore]

end Items

/-- A value that begins with a certain character, if those in brackets are local. -/
private theorem local_readValue_cons {depth : Nat}
    (hlist : Local fun r => readValue depth ('[' :: r))
    (hobject : Local fun r => readValue depth ('\x7b' :: r)) {c : Char} (hc : isSpace c = false) :
    Local fun r => readValue depth (c :: r) := by
  by_cases hmem : c ∈ ['n', 't', 'f', '-', '"', '[', '\x7b']
  · simp only [List.mem_cons, List.not_mem_nil, or_false] at hmem
    rcases hmem with rfl | rfl | rfl | rfl | rfl | rfl | rfl
    · exact Local.of_iff (fun t x => by rw [readValue]; exact Iff.rfl)
        (local_readWord ['u', 'l', 'l'] Value.null)
    · exact Local.of_iff (fun t x => by rw [readValue]; exact Iff.rfl)
        (local_readWord ['r', 'u', 'e'] (Value.bool true))
    · exact Local.of_iff (fun t x => by rw [readValue]; exact Iff.rfl)
        (local_readWord ['a', 'l', 's', 'e'] (Value.bool false))
    · exact Local.of_iff (fun t x => by rw [readValue]; exact Iff.rfl)
        ((local_readUnsigned true).map Value.number)
    · exact Local.of_iff (fun t x => by rw [readValue]; exact Iff.rfl)
        (local_readString.map fun s => Value.string (String.ofList s))
    · exact hlist
    · exact hobject
  · have hread : ∀ r, readValue depth (c :: r) =
        if c.isDigit then
          (readUnsigned false (c :: r)).map fun x => (Value.number x.1, x.2)
        else .error (.next .expectedValue (c :: r)) := by
      intro r
      rw [readValue, skipSpace_cons_of_not hc]
      split <;> simp_all
    simp only [hread]
    split
    · exact (local_readUnsigned_cons false c).map Value.number
    · exact Local.of_ne_ok (by simp)

/-- **A value does not depend on what stands behind it**, but for the character where a numeral has
to end. -/
theorem local_readValue (depth : Nat) : Local (readValue depth) := by
  have hskip : ∀ depth t, readValue depth (skipSpace t) = readValue depth t := by
    intro depth t
    rw [readValue, skipSpace_skipSpace, ← readValue]
  have hnil : ∀ depth x, readValue depth [] ≠ .ok x := by
    intro depth x
    rw [readValue]
    simp [skipSpace]
  induction depth with
  | zero =>
    refine Local.of_skipSpace (hskip 0) (hnil 0) fun c hc => local_readValue_cons ?_ ?_ hc
    · exact Local.of_ne_ok fun t x => by rw [readValue]; simp [skipSpace, isSpace]
    · exact Local.of_ne_ok fun t x => by rw [readValue]; simp [skipSpace, isSpace]
  | succ depth ih =>
    refine Local.of_skipSpace (hskip _) (hnil _) fun c hc => local_readValue_cons ?_ ?_ hc
    · exact Local.of_iff (fun t x => by rw [readValue]; exact Iff.rfl)
        (steps_readItems.local ih Value.array)
    · exact Local.of_iff (fun t x => by rw [readValue]; exact Iff.rfl)
        (steps_readMembers.local (local_readMember ih) fun ms => Value.object (Table.ofList ms))

/-! ### Whole texts -/

/-- Only a brace opens an object. -/
private theorem of_readValue_object {depth : Nat} {t : Text} {ms : List (String × Value)}
    {rest : Text} (h : readValue (depth + 1) t = .ok (.object ms, rest)) :
    ∃ r pairs, skipSpace t = '\x7b' :: r ∧ ms = Table.ofList pairs ∧
      readMembers (readValue depth) (r.length + 1) true r = .ok (pairs, rest) := by
  -- A reader of another kind of value answers no object.
  have hother : ∀ {α : Type} {read : Except Fault α} {f : α → Value × Text},
      (∀ a, (f a).1 ≠ .object ms) → read.map f ≠ .ok (.object ms, rest) := by
    intro α read f hf hmap
    obtain ⟨a, -, ha⟩ := map_eq_ok_iff.1 hmap
    exact hf a (congrArg Prod.fst ha)
  rw [readValue] at h
  split at h
  · cases h
  · exact absurd h (hother (by simp))
  · exact absurd h (hother (by simp))
  · exact absurd h (hother (by simp))
  · exact absurd h (hother (by simp))
  · exact absurd h (hother (by simp))
  · exact absurd h (hother (by simp))
  · next r ht =>
    obtain ⟨⟨pairs, mid⟩, hr, hpair⟩ := map_eq_ok_iff.1 h
    cases hpair
    exact ⟨r, pairs, ht, rfl, hr⟩
  · split at h
    · exact absurd h (hother (by simp))
    · cases h

/-- **A text that is read as an object is that object with white space around it**, and the object
is read the same without the white space. -/
theorem exists_of_parse_object {raw : Text} {ms : List (String × Value)}
    (h : parse raw = .ok (.object ms)) :
    ∃ lead body trail, raw = lead ++ ('\x7b' :: body ++ ['\x7d']) ++ trail ∧
      lead.all isSpace = true ∧ trail.all isSpace = true ∧
      parse ('\x7b' :: body ++ ['\x7d']) = .ok (.object ms) := by
  unfold parse at h
  split at h
  · cases h
  · next v trail hread =>
    split at h
    · next htrail =>
      cases h
      obtain ⟨r, pairs, hskip, rfl, hmembers⟩ := of_readValue_object hread
      obtain ⟨lead, hraw, hlead⟩ := exists_skipSpace_eq raw
      have hitem := local_readValue 126
      obtain ⟨body, rfl, hbody⟩ :=
        steps_readMembers.exists_body (local_readMember hitem) hmembers
      refine ⟨lead, body, trail, ?_, hlead, ?_, ?_⟩
      · rw [hraw, hskip]
        simp
      · obtain ⟨w, hw, hall⟩ := exists_skipSpace_eq trail
        rwa [hw, htrail, List.append_nil]
      · have halone := hbody [] _ (Nat.le_refl _)
        rw [Bool.toNat_true] at halone
        have hvalue : readValue maxDepth ('\x7b' :: body ++ ['\x7d']) =
            .ok (.object (Table.ofList pairs), []) := by
          rw [maxDepth, readValue]
          exact congrArg (Except.map _) halone
        rw [parse, hvalue]
        rfl
    · cases h

/-- The members of an object that is read ascend. -/
theorem sorted_of_parse_object {raw : Text} {ms : List (String × Value)}
    (h : parse raw = .ok (.object ms)) : Table.Sorted ms := by
  unfold parse at h
  split at h
  · cases h
  · next v trail hread =>
    split at h
    · cases h
      obtain ⟨r, pairs, -, rfl, -⟩ := of_readValue_object hread
      exact Table.Sorted.ofList pairs
    · cases h

end ServiceCharter.Json

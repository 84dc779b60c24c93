import Mathlib.Data.Fintype.Fin
import Mathlib.Tactic.FinCases
import ServiceCharter.Text.Basic

/-!
# Texts in UTF-8

A character is written as a first byte and up to three continuation bytes. The first byte tells how
many follow, and each of these holds one digit of the code point to the base 64 (`form`). Of the
forms with room enough for a code point the shortest is the right one.

Forms are uniquely readable (`form_append_inj`), so no two texts have the same bytes, and whatever
bytes there are, reading them from the left comes to an end in one of two ways
(`encode_or_illFormed`): they are the encoding of a text, or behind some characters stands something
that begins no character. There are five ways to begin none (`Malformed`), and bytes with one of
them encode no text, whatever is around it (`IllFormed.encode_ne`).
-/

namespace ServiceCharter.Utf8

/-! ### Forms -/

/-- What is added to the leading digit of a form with `n` continuation bytes. -/
def leadMark : Fin 4 → Nat
  | 0 => 0
  | 1 => 0xC0
  | 2 => 0xE0
  | 3 => 0xF0

/-- How many leading digits a form with `n` continuation bytes has. -/
def leadCount : Fin 4 → Nat
  | 0 => 0x80
  | 1 => 0x20
  | 2 => 0x10
  | 3 => 0x08

/-- The numbers that fit in a form with `n` continuation bytes are those below. -/
def capacity : Fin 4 → Nat
  | 0 => 0x80
  | 1 => 0x800
  | 2 => 0x10000
  | 3 => 0x200000

theorem capacity_eq (n : Fin 4) : capacity n = leadCount n * 64 ^ n.val := by
  decide +revert

/-- The last `k` digits of a number to the base 64, one in each byte. -/
def continuations : Nat → Nat → List UInt8
  | 0, _ => []
  | k + 1, v => UInt8.ofNat (0x80 + v / 64 ^ k % 64) :: continuations k v

/-- A number, written with `n` continuation bytes. -/
def form (n : Fin 4) (v : Nat) : List UInt8 :=
  UInt8.ofNat (leadMark n + v / 64 ^ n.val) :: continuations n v

/-- The number of continuation bytes in the shortest form of a number. -/
def width (v : Nat) : Fin 4 :=
  if v ≤ 0x7F then 0 else if v ≤ 0x7FF then 1 else if v ≤ 0xFFFF then 2 else 3

/-- A character in UTF-8: its code point in the shortest form. -/
def encodeChar (c : Char) : List UInt8 := form (width c.toNat) c.toNat

/-- A text in UTF-8. -/
def encode (t : Text) : List UInt8 := t.flatMap encodeChar

/-- The byte continues a character. -/
def IsContinuation (b : UInt8) : Prop := 0x80 ≤ b.toNat ∧ b.toNat < 0xC0

/-- The byte is the first of a form with `n` continuation bytes. -/
def Opens (n : Fin 4) (b : UInt8) : Prop :=
  leadMark n ≤ b.toNat ∧ b.toNat < leadMark n + leadCount n

/-- The bytes begin with no character. -/
inductive Malformed : List UInt8 → Prop
  /-- A continuation byte without a first byte, or a byte that is in no form. -/
  | stray {b : UInt8} {rest : List UInt8} (h : IsContinuation b ∨ 0xF8 ≤ b.toNat) :
    Malformed (b :: rest)
  /-- A form that breaks off. -/
  | truncated {n : Fin 4} {b : UInt8} {bs rest : List UInt8} (hb : Opens n b)
    (hbs : ∀ b ∈ bs, IsContinuation b) (hshort : bs.length < n)
    (hrest : ∀ b ∈ rest.head?, ¬IsContinuation b) : Malformed (b :: (bs ++ rest))
  /-- A form that is longer than need be. -/
  | overlong {n : Fin 4} {v : Nat} {rest : List UInt8} (h : width v < n) :
    Malformed (form n v ++ rest)
  /-- One of the code points that are set aside for pairs of 16 bits. -/
  | surrogate {v : Nat} {rest : List UInt8} (hlow : 0xD800 ≤ v) (hhigh : v < 0xE000) :
    Malformed (form 2 v ++ rest)
  /-- A number beyond the last code point. -/
  | outOfRange {v : Nat} {rest : List UInt8} (hlow : 0x110000 ≤ v) (hhigh : v < capacity 3) :
    Malformed (form 3 v ++ rest)

/-- Behind the characters of some text stands something that begins no character. -/
def IllFormed (bytes : List UInt8) : Prop :=
  ∃ t rest, bytes = encode t ++ rest ∧ Malformed rest

/-! ### Continuation bytes -/

private theorem toNat_continuation (v : Nat) :
    (UInt8.ofNat (0x80 + v % 64)).toNat = 0x80 + v % 64 := by
  rw [UInt8.toNat_ofNat']
  omega

theorem length_continuations (k v : Nat) : (continuations k v).length = k := by
  induction k with
  | zero => rfl
  | succ k ih => rw [continuations, List.length_cons, ih]

private theorem isContinuation_of_mem {k v : Nat} {b : UInt8} (h : b ∈ continuations k v) :
    IsContinuation b := by
  induction k with
  | zero => cases h
  | succ k ih =>
    rcases List.mem_cons.1 h with rfl | h
    · rw [IsContinuation, toNat_continuation]
      omega
    · exact ih h

/-- Only the last digits count. -/
private theorem continuations_congr {k v w : Nat} (h : v % 64 ^ k = w % 64 ^ k) :
    continuations k v = continuations k w := by
  induction k with
  | zero => rfl
  | succ k ih =>
    have hdigit : v / 64 ^ k % 64 = w / 64 ^ k % 64 := by
      rw [← Nat.mod_mul_right_div_self, ← Nat.mod_mul_right_div_self, ← Nat.pow_succ, h]
    have hlow : v % 64 ^ k = w % 64 ^ k := by
      have hdvd : 64 ^ k ∣ 64 ^ (k + 1) := Nat.pow_dvd_pow 64 (Nat.le_succ k)
      rw [← Nat.mod_mod_of_dvd v hdvd, h, Nat.mod_mod_of_dvd w hdvd]
    rw [continuations, continuations, hdigit, ih hlow]

/-- The digits can be read off, whatever follows them. -/
theorem continuations_append_inj {k v w : Nat} {rest rest' : List UInt8}
    (h : continuations k v ++ rest = continuations k w ++ rest') :
    v % 64 ^ k = w % 64 ^ k ∧ rest = rest' := by
  induction k with
  | zero => exact ⟨by simp [Nat.mod_one], h⟩
  | succ k ih =>
    rw [continuations, continuations, List.cons_append, List.cons_append, List.cons.injEq] at h
    obtain ⟨hlow, hrest⟩ := ih h.2
    have hdigit := congrArg UInt8.toNat h.1
    rw [toNat_continuation, toNat_continuation, Nat.add_left_cancel_iff] at hdigit
    exact ⟨by rw [Nat.mod_pow_succ, Nat.mod_pow_succ, hlow, hdigit], hrest⟩

/-- A digit put in front does not show in those behind it. -/
private theorem continuations_pow_mul_add (k d v : Nat) :
    continuations k (64 ^ k * d + v) = continuations k v :=
  continuations_congr (Nat.mul_add_mod (64 ^ k) d v)

private theorem pow_mul_add_div {k v : Nat} (h : v < 64 ^ k) (d : Nat) :
    (64 ^ k * d + v) / 64 ^ k = d := by
  rw [Nat.mul_add_div (Nat.pow_pos (by decide)), Nat.div_eq_of_lt h, Nat.add_zero]

/-- Continuation bytes are the digits of a number. -/
theorem exists_eq_continuations {bs : List UInt8} (h : ∀ b ∈ bs, IsContinuation b) :
    ∃ v < 64 ^ bs.length, bs = continuations bs.length v := by
  induction bs with
  | nil => exact ⟨0, by simp, rfl⟩
  | cons b bs ih =>
    obtain ⟨⟨hlow, hhigh⟩, hbs⟩ := List.forall_mem_cons.1 h
    obtain ⟨v, hv, heq⟩ := ih hbs
    refine ⟨64 ^ bs.length * (b.toNat - 0x80) + v, ?_, ?_⟩
    · rw [List.length_cons, Nat.pow_succ]
      calc 64 ^ bs.length * (b.toNat - 0x80) + v
          < 64 ^ bs.length * (b.toNat - 0x80) + 64 ^ bs.length := Nat.add_lt_add_left hv _
        _ = 64 ^ bs.length * (b.toNat - 0x80 + 1) := (Nat.mul_succ _ _).symm
        _ ≤ 64 ^ bs.length * 64 := Nat.mul_le_mul_left _ (by omega)
    · have hb : 0x80 + (b.toNat - 0x80) % 64 = b.toNat := by omega
      rw [List.length_cons, continuations, pow_mul_add_div hv, hb, UInt8.ofNat_toNat,
        continuations_pow_mul_add, ← heq]

/-- Continuation bytes are taken up to a number of them, or as long as there are some. -/
private theorem exists_continuations_prefix (k : Nat) (bytes : List UInt8) :
    ∃ bs rest, bytes = bs ++ rest ∧ (∀ b ∈ bs, IsContinuation b) ∧
      (bs.length = k ∨ bs.length < k ∧ ∀ b ∈ rest.head?, ¬IsContinuation b) := by
  induction k generalizing bytes with
  | zero => exact ⟨[], bytes, rfl, by simp, Or.inl rfl⟩
  | succ k ih =>
    cases bytes with
    | nil => exact ⟨[], [], rfl, by simp, Or.inr ⟨Nat.succ_pos k, by simp⟩⟩
    | cons b bytes =>
      by_cases hb : IsContinuation b
      · obtain ⟨bs, rest, rfl, hbs, hlength⟩ := ih bytes
        refine ⟨b :: bs, rest, rfl, List.forall_mem_cons.2 ⟨hb, hbs⟩, ?_⟩
        simpa only [List.length_cons, Nat.add_right_cancel_iff, Nat.add_lt_add_iff_right] using
          hlength
      · exact ⟨[], b :: bytes, rfl, by simp, Or.inr ⟨Nat.succ_pos k, by simpa using hb⟩⟩

/-! ### First bytes -/

private theorem exists_opens_or_stray (b : UInt8) :
    (∃ n, Opens n b) ∨ IsContinuation b ∨ 0xF8 ≤ b.toNat := by
  rcases Nat.lt_or_ge b.toNat 0x80 with hascii | hascii
  · exact Or.inl ⟨0, Nat.zero_le _, hascii⟩
  rcases Nat.lt_or_ge b.toNat 0xC0 with hcontinuation | hcontinuation
  · exact Or.inr (Or.inl ⟨hascii, hcontinuation⟩)
  rcases Nat.lt_or_ge b.toNat 0xE0 with htwo | htwo
  · exact Or.inl ⟨1, hcontinuation, htwo⟩
  rcases Nat.lt_or_ge b.toNat 0xF0 with hthree | hthree
  · exact Or.inl ⟨2, htwo, hthree⟩
  rcases Nat.lt_or_ge b.toNat 0xF8 with hfour | hfour
  · exact Or.inl ⟨3, hthree, hfour⟩
  · exact Or.inr (Or.inr hfour)

theorem Opens.not_stray {n : Fin 4} {b : UInt8} (h : Opens n b) :
    ¬(IsContinuation b ∨ 0xF8 ≤ b.toNat) := by
  unfold IsContinuation
  fin_cases n <;> simp only [Opens, leadMark, leadCount] at h <;> omega

/-- The first bytes of longer forms are above those of shorter ones. -/
private theorem leadMark_add_leadCount_le {n m : Fin 4} (h : n < m) :
    leadMark n + leadCount n ≤ leadMark m := by
  decide +revert

private theorem leadMark_add_leadCount_lt (n : Fin 4) : leadMark n + leadCount n < 256 := by
  decide +revert

theorem Opens.unique {n m : Fin 4} {b : UInt8} (hn : Opens n b) (hm : Opens m b) : n = m := by
  rcases lt_trichotomy n m with hlt | heq | hlt
  · have hle := leadMark_add_leadCount_le hlt
    exact absurd (hn.2.trans_le hle) (Nat.not_lt.2 hm.1)
  · exact heq
  · have hle := leadMark_add_leadCount_le hlt
    exact absurd (hm.2.trans_le hle) (Nat.not_lt.2 hn.1)

/-! ### Forms are uniquely readable -/

private theorem lead_lt {n : Fin 4} {v : Nat} (h : v < capacity n) : v / 64 ^ n.val < leadCount n :=
  (Nat.div_lt_iff_lt_mul (Nat.pow_pos (by decide))).2 (h.trans_eq (capacity_eq n))

private theorem toNat_lead {n : Fin 4} {v : Nat} (h : v < capacity n) :
    (UInt8.ofNat (leadMark n + v / 64 ^ n.val)).toNat = leadMark n + v / 64 ^ n.val :=
  UInt8.toNat_ofNat_of_lt' ((Nat.add_lt_add_left (lead_lt h) _).trans (leadMark_add_leadCount_lt n))

private theorem opens_lead {n : Fin 4} {v : Nat} (h : v < capacity n) :
    Opens n (UInt8.ofNat (leadMark n + v / 64 ^ n.val)) := by
  rw [Opens, toNat_lead h]
  exact ⟨Nat.le_add_right _ _, Nat.add_lt_add_left (lead_lt h) _⟩

/-- **A form can be read off, whatever follows it.** -/
theorem form_append_inj {n m : Fin 4} {v w : Nat} {rest rest' : List UInt8} (hv : v < capacity n)
    (hw : w < capacity m) (h : form n v ++ rest = form m w ++ rest') :
    n = m ∧ v = w ∧ rest = rest' := by
  rw [form, form, List.cons_append, List.cons_append, List.cons.injEq] at h
  obtain ⟨hfirst, hbehind⟩ := h
  obtain rfl : n = m := (opens_lead hv).unique (hfirst ▸ opens_lead hw)
  obtain ⟨hlow, hrest⟩ := continuations_append_inj hbehind
  have hlead := congrArg UInt8.toNat hfirst
  rw [toNat_lead hv, toNat_lead hw, Nat.add_left_cancel_iff] at hlead
  refine ⟨rfl, ?_, hrest⟩
  rw [← Nat.div_add_mod v (64 ^ n.val), hlead, hlow, Nat.div_add_mod]

/-- A first byte with as many continuation bytes as it asks for is a form. -/
theorem exists_eq_form {n : Fin 4} {b : UInt8} {bs : List UInt8} (hb : Opens n b)
    (hbs : ∀ b ∈ bs, IsContinuation b) (hlength : bs.length = n) :
    ∃ v < capacity n, b :: bs = form n v := by
  obtain ⟨v, hv, heq⟩ := exists_eq_continuations hbs
  rw [hlength] at hv heq
  have hlead : leadMark n + (b.toNat - leadMark n) = b.toNat := Nat.add_sub_cancel' hb.1
  refine ⟨64 ^ n.val * (b.toNat - leadMark n) + v, ?_, ?_⟩
  · rw [capacity_eq, ← Nat.div_lt_iff_lt_mul (Nat.pow_pos (by decide)), pow_mul_add_div hv]
    exact Nat.sub_lt_left_of_lt_add hb.1 hb.2
  · rw [form, pow_mul_add_div hv, hlead, UInt8.ofNat_toNat, continuations_pow_mul_add, ← heq]

/-! ### The shortest form -/

private theorem capacity_mono {n m : Fin 4} (h : n ≤ m) : capacity n ≤ capacity m := by
  decide +revert

/-- No form in which a number fits is shorter than its shortest form. -/
theorem width_le {n : Fin 4} {v : Nat} (h : v < capacity n) : width v ≤ n := by
  have hlonger {m : Fin 4} (hm : capacity m ≤ v) : m < n := by
    by_contra hnm
    exact absurd (h.trans_le (capacity_mono (not_lt.1 hnm))) (Nat.not_lt.2 hm)
  unfold width
  split_ifs with hone htwo hthree
  · exact Fin.zero_le n
  · exact Fin.add_one_le_of_lt (hlonger (m := 0) (Nat.lt_of_not_le hone))
  · exact Fin.add_one_le_of_lt (hlonger (m := 1) (Nat.lt_of_not_le htwo))
  · exact Fin.add_one_le_of_lt (hlonger (m := 2) (Nat.lt_of_not_le hthree))

/-- A number fits in its shortest form. -/
theorem lt_capacity_width {v : Nat} (h : v < capacity 3) : v < capacity (width v) := by
  unfold width
  split_ifs <;> simp only [capacity] at h ⊢ <;> omega

private theorem lt_capacity_of_width_lt {n : Fin 4} {v : Nat} (h : width v < n) :
    v < capacity n := by
  have hv : v < capacity 3 := by
    by_contra hv
    have hwidth : width v = 3 := by
      have hlarge : 0x200000 ≤ v := Nat.not_lt.1 hv
      rw [width, if_neg (by omega), if_neg (by omega), if_neg (by omega)]
    rw [hwidth] at h
    exact absurd h (Fin.le_last n).not_gt
  exact (lt_capacity_width hv).trans_le (capacity_mono h.le)

/-! ### Characters are uniquely readable -/

private theorem isValidChar_toNat (c : Char) : c.toNat.isValidChar := c.valid

private theorem toNat_lt_capacity (c : Char) : c.toNat < capacity (width c.toNat) := by
  refine lt_capacity_width ?_
  obtain h | ⟨-, h⟩ := isValidChar_toNat c
  · exact h.trans (by decide)
  · exact h.trans (by decide)

/-- A character can be read off, whatever follows it. -/
theorem encodeChar_append_inj {c d : Char} {rest rest' : List UInt8}
    (h : encodeChar c ++ rest = encodeChar d ++ rest') : c = d ∧ rest = rest' := by
  obtain ⟨-, heq, hrest⟩ := form_append_inj (toNat_lt_capacity c) (toNat_lt_capacity d) h
  exact ⟨Char.toNat_inj.1 heq, hrest⟩

/-- Bytes that are cut off within a form go on with a continuation byte. -/
private theorem exists_isContinuation_head? {k v : Nat} {rest bs rest' : List UInt8}
    (h : continuations k v ++ rest = bs ++ rest') (hshort : bs.length < k) :
    ∃ b ∈ rest'.head?, IsContinuation b := by
  obtain ⟨more, rfl, -⟩ | ⟨more, hbs, rfl⟩ := List.append_eq_append_iff.1 h
  · rw [List.length_append, length_continuations] at hshort
    omega
  · cases more with
    | nil =>
      rw [List.append_nil] at hbs
      rw [← hbs, length_continuations] at hshort
      exact absurd hshort (Nat.lt_irrefl k)
    | cons b more => exact ⟨b, rfl, isContinuation_of_mem (v := v) (k := k) (by simp [hbs])⟩

/-- Where a character begins, nothing is malformed. -/
theorem not_malformed_encodeChar_append (c : Char) (rest : List UInt8) :
    ¬Malformed (encodeChar c ++ rest) := by
  have hc := toNat_lt_capacity c
  intro h
  generalize hbytes : encodeChar c ++ rest = bytes at h
  cases h with
  | stray h =>
    obtain ⟨rfl, -⟩ := List.cons.inj hbytes
    exact (opens_lead hc).not_stray h
  | truncated hb hbs hshort hrest =>
    obtain ⟨rfl, hbehind⟩ := List.cons.inj hbytes
    obtain rfl := (opens_lead hc).unique hb
    obtain ⟨b, hmem, hb⟩ := exists_isContinuation_head? hbehind hshort
    exact hrest b hmem hb
  | overlong h =>
    obtain ⟨hn, rfl, -⟩ := form_append_inj hc (lt_capacity_of_width_lt h) hbytes
    exact h.ne hn
  | surrogate hlow hhigh =>
    obtain ⟨-, rfl, -⟩ := form_append_inj hc (hhigh.trans (by decide)) hbytes
    obtain h | ⟨h, -⟩ := isValidChar_toNat c <;> omega
  | outOfRange hlow hhigh =>
    obtain ⟨-, rfl, -⟩ := form_append_inj hc hhigh hbytes
    obtain h | ⟨-, h⟩ := isValidChar_toNat c <;> omega

/-- A form is a character, unless it is too long or its number is no code point. -/
private theorem exists_eq_encodeChar_or_malformed_form {n : Fin 4} {v : Nat} (hv : v < capacity n)
    (rest : List UInt8) : (∃ c, form n v = encodeChar c) ∨ Malformed (form n v ++ rest) := by
  rcases (width_le hv).lt_or_eq with hlong | rfl
  · exact Or.inr (.overlong hlong)
  · by_cases hchar : v.isValidChar
    · have hcode : (Char.ofNatAux v hchar).toNat = v := rfl
      exact Or.inl ⟨Char.ofNatAux v hchar, by rw [encodeChar, hcode]⟩
    · right
      obtain ⟨hlow, hhigh⟩ : 0xD800 ≤ v ∧ (v < 0xE000 ∨ 0x110000 ≤ v) := by
        unfold Nat.isValidChar at hchar
        omega
      rcases hhigh with hhigh | hhigh
      · have hwidth : width v = 2 := by
          rw [width, if_neg (by omega), if_neg (by omega), if_pos (by omega)]
        rw [hwidth]
        exact .surrogate hlow hhigh
      · have hwidth : width v = 3 := by
          rw [width, if_neg (by omega), if_neg (by omega), if_neg (by omega)]
        rw [hwidth] at hv ⊢
        exact .outOfRange hhigh hv

/-- **Bytes begin with a character, or are malformed.** -/
theorem exists_eq_encodeChar_append_or_malformed {bytes : List UInt8} (hne : bytes ≠ []) :
    (∃ c rest, bytes = encodeChar c ++ rest) ∨ Malformed bytes := by
  obtain ⟨b, behind, rfl⟩ := List.exists_cons_of_ne_nil hne
  rcases exists_opens_or_stray b with ⟨n, hb⟩ | hstray
  · obtain ⟨bs, rest, rfl, hbs, hlength | ⟨hshort, hrest⟩⟩ := exists_continuations_prefix n behind
    · obtain ⟨v, hv, heq⟩ := exists_eq_form hb hbs hlength
      rw [← List.cons_append, heq]
      rcases exists_eq_encodeChar_or_malformed_form hv rest with ⟨c, hc⟩ | h
      · exact Or.inl ⟨c, rest, by rw [hc]⟩
      · exact Or.inr h
    · exact Or.inr (.truncated hb hbs hshort hrest)
  · exact Or.inr (.stray hstray)

/-! ### Texts are uniquely readable -/

theorem encode_cons (c : Char) (t : Text) : encode (c :: t) = encodeChar c ++ encode t :=
  List.flatMap_cons

theorem Malformed.ne_nil {bytes : List UInt8} (h : Malformed bytes) : bytes ≠ [] := by
  cases h <;> exact List.cons_ne_nil _ _

/-- What is wrong stays wrong behind a character. -/
theorem IllFormed.encodeChar_append {bytes : List UInt8} (h : IllFormed bytes) (c : Char) :
    IllFormed (encodeChar c ++ bytes) := by
  obtain ⟨t, rest, rfl, hrest⟩ := h
  exact ⟨c :: t, rest, by rw [encode_cons, List.append_assoc], hrest⟩

/-- **All bytes encode a text, or are ill-formed.** -/
theorem encode_or_illFormed (bytes : List UInt8) : (∃ t, encode t = bytes) ∨ IllFormed bytes := by
  induction hlength : bytes.length using Nat.strong_induction_on generalizing bytes with
  | _ k ih =>
    rcases eq_or_ne bytes [] with rfl | hne
    · exact Or.inl ⟨[], rfl⟩
    rcases exists_eq_encodeChar_append_or_malformed hne with ⟨c, rest, rfl⟩ | h
    · have hshorter : rest.length < k := by
        rw [← hlength, encodeChar, form, List.cons_append, List.length_cons, List.length_append]
        omega
      rcases ih _ hshorter rest rfl with ⟨t, rfl⟩ | hrest
      · exact Or.inl ⟨c :: t, encode_cons c t⟩
      · exact Or.inr (hrest.encodeChar_append c)
    · exact Or.inr ⟨[], bytes, rfl, h⟩

/-- **No text is encoded by ill-formed bytes.** -/
theorem IllFormed.encode_ne {bytes : List UInt8} (h : IllFormed bytes) (t : Text) :
    encode t ≠ bytes := by
  obtain ⟨u, rest, rfl, hrest⟩ := h
  intro heq
  induction u generalizing t with
  | nil =>
    cases t with
    | nil => exact hrest.ne_nil heq.symm
    | cons c t =>
      rw [encode_cons] at heq
      exact not_malformed_encodeChar_append c (encode t) (heq ▸ hrest)
  | cons d u ih =>
    rw [encode_cons, List.append_assoc] at heq
    cases t with
    | nil => exact List.cons_ne_nil _ _ heq.symm
    | cons c t => exact ih t (encodeChar_append_inj heq).2

/-! ### Strings -/

/-- Strings hold the code point of a character in its shortest form. -/
theorem utf8EncodeChar_eq (c : Char) : String.utf8EncodeChar c = encodeChar c := by
  have hlt : c.val.toNat < 0x110000 := by
    obtain h | ⟨-, h⟩ := isValidChar_toNat c
    · exact h.trans (by decide)
    · exact h
  simp only [String.utf8EncodeChar, encodeChar, Char.toNat]
  generalize c.val.toNat = v at hlt
  unfold width
  -- In each form the leading digit is small enough to stand in the first byte.
  split_ifs with hone htwo hthree
  · simp [form, leadMark, continuations]
  · have hlead : v / 64 % 32 = v / 64 := Nat.mod_eq_of_lt (by omega)
    simp [form, leadMark, continuations, hlead, UInt8.add_comm]
  · have hlead : v / 4096 % 16 = v / 4096 := Nat.mod_eq_of_lt (by omega)
    simp [form, leadMark, continuations, hlead, UInt8.add_comm]
  · have hlead : v / 262144 % 8 = v / 262144 := Nat.mod_eq_of_lt (by omega)
    simp [form, leadMark, continuations, hlead, UInt8.add_comm]

theorem toList_data_utf8Encode (t : Text) : t.utf8Encode.data.toList = encode t := by
  rw [List.utf8Encode, List.toList_data_toByteArray, encode, funext utf8EncodeChar_eq]

example : encode ['a', 'é', '€', '😀'] =
    [0x61, 0xC3, 0xA9, 0xE2, 0x82, 0xAC, 0xF0, 0x9F, 0x98, 0x80] := by decide

/-- **Bytes are read as the text that they encode.** -/
theorem fromUTF8?_eq_some_iff {bytes : ByteArray} {s : String} :
    String.fromUTF8? bytes = some s ↔ encode s.toList = bytes.data.toList := by
  have hbytes : encode s.toList = bytes.data.toList ↔ s.toByteArray = bytes := by
    rw [← toList_data_utf8Encode, String.utf8Encode_toList]
    exact ⟨fun h => ByteArray.ext (Array.toList_inj.1 h), fun h => by rw [h]⟩
  rw [hbytes]
  constructor
  · intro h
    unfold String.fromUTF8? at h
    split at h
    · obtain rfl := Option.some.inj h
      rfl
    · cases h
  · rintro rfl
    exact dif_pos s.isValidUTF8

theorem fromUTF8?_utf8Encode (t : Text) :
    String.fromUTF8? t.utf8Encode = some (String.ofList t) := by
  rw [fromUTF8?_eq_some_iff, toList_data_utf8Encode, String.toList_ofList]

/-- No two texts have the same bytes. -/
theorem encode_injective : Function.Injective encode := by
  intro t u h
  have hbytes : t.utf8Encode = u.utf8Encode := by
    refine ByteArray.ext (Array.toList_inj.1 ?_)
    rw [toList_data_utf8Encode, toList_data_utf8Encode, h]
  have hread := congrArg String.fromUTF8? hbytes
  rw [fromUTF8?_utf8Encode, fromUTF8?_utf8Encode] at hread
  exact String.ofList_injective (Option.some.inj hread)

end ServiceCharter.Utf8

import ServiceCharter.Text.Basic

/-!
# Hexadecimal digits

An escape writes a number with as many hexadecimal digits as it says, in either case. `hexNumber?`
reads them at the head of a text, and what it has read does not depend on what follows.
-/

namespace ServiceCharter.Text

/-- The value of a hexadecimal digit. -/
def hexDigit? (c : Char) : Option Nat :=
  if c.isDigit then some (c.toNat - 48)
  else if 'a' ≤ c ∧ c ≤ 'f' then some (c.toNat - 87)
  else if 'A' ≤ c ∧ c ≤ 'F' then some (c.toNat - 55)
  else none

/-- The number that `count` hexadecimal digits write, behind those of `n`. -/
def hexNumber? : (count : Nat) → (n : Nat) → Text → Option (Nat × Text)
  | 0, n, t => some (n, t)
  | _ + 1, _, [] => none
  | count + 1, n, c :: t => (hexDigit? c).bind fun d => hexNumber? count (n * 16 + d) t

theorem exists_of_hexNumber? {count n m : Nat} {t r : Text}
    (h : hexNumber? count n t = some (m, r)) :
    ∃ digits, digits.length = count ∧ t = digits ++ r ∧
      ∀ r', hexNumber? count n (digits ++ r') = some (m, r') := by
  induction count generalizing n t with
  | zero =>
    cases h
    exact ⟨[], rfl, rfl, fun _ => rfl⟩
  | succ count ih =>
    cases t with
    | nil => cases h
    | cons c t =>
      obtain ⟨d, hd, h⟩ := Option.bind_eq_some_iff.1 h
      obtain ⟨digits, hlength, rfl, hread⟩ := ih h
      refine ⟨c :: digits, congrArg Nat.succ hlength, rfl, fun r' => ?_⟩
      rw [List.cons_append, hexNumber?, hd, Option.bind_some, hread]

/-- What is left is shorter by the digits. -/
theorem length_of_hexNumber? {count n m : Nat} {t r : Text}
    (h : hexNumber? count n t = some (m, r)) : t.length = count + r.length := by
  obtain ⟨digits, rfl, rfl, -⟩ := exists_of_hexNumber? h
  exact List.length_append

end ServiceCharter.Text

import ServiceCharter.Table

/-!
# JSON values

A number is an integer of at most 64 bits or a binary64 value, which is kept by its bits so that
equality of numbers is decidable and tells the two zeros apart. The members of an object form a
table: each name once, in ascending order.
-/

namespace ServiceCharter.Json

/-- A JSON number. -/
inductive Number where
  /-- A number that was written as an integer and fits 64 bits. -/
  | integer (n : Int)
  /-- Any other number, by the bits of its binary64 value. -/
  | double (bits : UInt64)
deriving DecidableEq, Repr

/-- A JSON value. -/
inductive Value where
  | null
  | bool (b : Bool)
  | number (n : Number)
  | string (s : String)
  | array (items : List Value)
  /-- An object; its members are a table, sorted and without repeated names. -/
  | object (members : List (String × Value))
deriving Repr, Inhabited

/-- The members of an object; any other value has none. -/
def Value.members : Value → Table Value
  | .object members => members
  | _ => []

/-- Whether two values are the same. -/
def Value.same : Value → Value → Bool
  | .null, .null => true
  | .bool b, .bool c => b == c
  | .number m, .number n => m == n
  | .string s, .string t => s == t
  | .array vs, .array ws => sameItems vs ws fun v _ w => v.same w
  | .object ms, .object ns =>
    sameItems ms ns fun (name, v) h (name', w) =>
      have := Table.sizeOf_lt_of_mem h
      name == name' && v.same w
  | _, _ => false
termination_by v => sizeOf v

theorem Value.same_iff {v w : Value} : v.same w = true ↔ v = w := by
  fun_induction Value.same with
  | case5 vs ws ih => simp [sameItems_iff ih]
  | case6 ms ns ih =>
    rw [sameItems_iff, object.injEq]
    rintro ⟨name, v⟩ h ⟨name', w⟩
    simp [ih name v h w]
  | case7 v w => cases v <;> cases w <;> simp_all
  | _ => simp

instance : DecidableEq Value := fun _ _ => decidable_of_iff _ Value.same_iff

end ServiceCharter.Json

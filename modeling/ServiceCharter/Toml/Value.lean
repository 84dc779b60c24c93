import ServiceCharter.Table
import ServiceCharter.Toml.Moment

/-!
# TOML values
-/

namespace ServiceCharter.Toml

/-- A TOML value. -/
inductive Value where
  | boolean (b : Bool)
  | integer (n : Int)
  /-- A binary64 number, by its bits. -/
  | float (bits : UInt64)
  | string (s : String)
  | moment (m : Moment)
  | array (items : List Value)
  /-- A table; its members are sorted and without repeated keys. -/
  | table (members : List (String × Value))
deriving Repr

/-- Whether two values are the same. -/
def Value.same : Value → Value → Bool
  | .boolean b, .boolean c => b == c
  | .integer m, .integer n => m == n
  | .float x, .float y => x == y
  | .string s, .string t => s == t
  | .moment m, .moment n => m == n
  | .array vs, .array ws => sameItems vs ws fun v _ w => v.same w
  | .table ms, .table ns =>
    sameItems ms ns fun (key, v) h (key', w) =>
      have := Table.sizeOf_lt_of_mem h
      key == key' && v.same w
  | _, _ => false
termination_by v => sizeOf v

theorem Value.same_iff {v w : Value} : v.same w = true ↔ v = w := by
  fun_induction Value.same with
  | case6 vs ws ih => simp [sameItems_iff ih]
  | case7 ms ns ih =>
    rw [sameItems_iff, table.injEq]
    rintro ⟨key, v⟩ h ⟨key', w⟩
    simp [ih key v h w]
  | case8 v w => cases v <;> cases w <;> simp_all
  | _ => simp

instance : DecidableEq Value := fun _ _ => decidable_of_iff _ Value.same_iff

end ServiceCharter.Toml

import ServiceCharter.Text.Basic

/-!
# Classes of characters

A class of characters is a list of closed ranges of code points. The tables of the library, white
space, decimal digits and the classes behind lower case and quoting, are such lists.
-/

namespace ServiceCharter.Text

/-- Closed ranges of code points. -/
abbrev Ranges := List (Nat × Nat)

/-- Whether the code point of `c` lies in one of the ranges. -/
def Ranges.has (rs : Ranges) (c : Char) : Bool :=
  rs.any fun r => r.1 ≤ c.toNat && c.toNat ≤ r.2

end ServiceCharter.Text

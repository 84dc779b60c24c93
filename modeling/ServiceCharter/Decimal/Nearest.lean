/-!
# The binary64 value of a decimal

`nearest` rounds a decimal to the nearest binary64 value. Exponents far outside the range are cut
off before any power of ten is formed: the result is then infinite or zero anyway.
-/

namespace ServiceCharter.Decimal

/-- The binary64 value nearest to `digits * 10 ^ exponent`. -/
def nearest (digits : Nat) (exponent : Int) : Float :=
  let size : Int := (Nat.toDigits 10 digits).length
  if digits = 0 ∨ size + exponent < -400 then 0
  else if 400 < size + exponent then Float.ofScientific 1 false 400
  else if 0 ≤ exponent then Float.ofScientific digits false exponent.toNat
  else Float.ofScientific digits true (-exponent).toNat

end ServiceCharter.Decimal

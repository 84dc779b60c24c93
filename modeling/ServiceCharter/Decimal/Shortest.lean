/-!
# The shortest decimal of a binary64 value

Every finite binary64 value stands for an interval of reals: those that round to it. `shortest`
picks the decimal with the fewest digits in that interval, and among those the nearest to the value.
All comparisons are made on natural numbers by cross-multiplication, so none of them rounds.
-/

namespace ServiceCharter.Decimal

/-- A finite binary64 value without its sign, `mantissa * 2 ^ exponent`. -/
structure Binary where
  mantissa : Nat
  exponent : Int
  /-- The gap to the next value below is half the gap to the next value above. -/
  narrowBelow : Bool
deriving DecidableEq, Repr

/-- The value behind the bits of a finite number; the sign bit is not looked at. -/
def Binary.ofBits (bits : UInt64) : Binary :=
  let e := ((bits >>> 52) &&& 0x7FF).toNat
  let f := (bits &&& 0xFFFFFFFFFFFFF).toNat
  if e = 0 then ⟨f, -1074, false⟩ else ⟨(1 <<< 52) + f, (e : Int) - 1075, f == 0 && e > 1⟩

/-- A decimal without sign, `digits * 10 ^ exponent`. -/
structure Scaled where
  digits : Nat
  exponent : Int
deriving DecidableEq, Repr

/-- The order of `a * 10 ^ i` and `n * 2 ^ j`. -/
def compareScaled (a : Nat) (i : Int) (n : Nat) (j : Int) : Ordering :=
  compare ((a * Nat.pow 10 i.toNat) <<< (-j).toNat) ((n * Nat.pow 10 (-i).toNat) <<< j.toNat)

/-- Whether `d` lies among the reals that round to `x`, to nearest and on a tie to even. -/
def Binary.readsBack (x : Binary) (d : Scaled) : Bool :=
  -- The bounds are counted in quarters of a unit: the gap below may be half as wide.
  let low := if x.narrowBelow then 4 * x.mantissa - 1 else 4 * x.mantissa - 2
  let high := 4 * x.mantissa + 2
  let closed := x.mantissa % 2 == 0
  let below := compareScaled d.digits d.exponent low (x.exponent - 2)
  let above := compareScaled d.digits d.exponent high (x.exponent - 2)
  (below == .gt || (closed && below == .eq)) && (above == .lt || (closed && above == .eq))

/-- The least `k` with `x < 10 ^ k`, for a value other than zero: an estimate from the binary
logarithm that is never too large, raised until it fits. -/
def Binary.scale (x : Binary) : Int :=
  -- `0.30103` is a little more than the decimal logarithm of two; one less makes up for it.
  let start := ((x.mantissa.log2 : Int) + x.exponent) * 30103 / 100000 - 1
  raise 4 start
where
  /-- Raises `k` while `10 ^ k ≤ x`, at most `steps` times. -/
  raise : Nat → Int → Int
    | 0, k => k
    | steps + 1, k =>
      if compareScaled 1 k x.mantissa x.exponent == .gt then k else raise steps (k + 1)

/-- The whole number of times that `10 ^ i` goes into `x`. -/
def Binary.floorAt (x : Binary) (i : Int) : Nat :=
  ((x.mantissa * Nat.pow 10 (-i).toNat) <<< x.exponent.toNat) /
    (Nat.pow 10 i.toNat <<< (-x.exponent).toNat)

/-- What to do when two decimals of the same length are equally near. -/
inductive Tie where
  /-- Take the one whose last digit is even. -/
  | toEven
  /-- Take the greater one. -/
  | up
deriving DecidableEq, Repr

/-- The nearer of the two neighbours of `x` on the grid `10 ^ i` that reads back, if one does. -/
def Binary.onGrid? (tie : Tie) (x : Binary) (i : Int) : Option Scaled :=
  let f := x.floorAt i
  let lower : Scaled := ⟨f, i⟩
  let upper : Scaled := ⟨f + 1, i⟩
  match x.readsBack lower, x.readsBack upper with
  | false, false => none
  | true, false => some lower
  | false, true => some upper
  | true, true =>
    -- Both neighbours read back; their midpoint says which is nearer.
    match compareScaled (2 * f + 1) i (2 * x.mantissa) x.exponent with
    | .gt => some lower
    | .lt => some upper
    | .eq => if tie = .toEven ∧ f % 2 = 0 then some lower else some upper

/-- The decimal without trailing zeros among its digits. -/
def Scaled.strip (d : Scaled) : Scaled :=
  go d.digits d
where
  /-- Takes off at most `fuel` zeros. -/
  go : Nat → Scaled → Scaled
    | 0, d => d
    | fuel + 1, d =>
      if d.digits ≠ 0 ∧ d.digits % 10 = 0 then go fuel ⟨d.digits / 10, d.exponent + 1⟩ else d

/-- The decimal with the fewest digits that reads back as `x`, and of those the nearest. Seventeen
digits always suffice; zero has the decimal zero. -/
def shortest (tie : Tie) (x : Binary) : Scaled :=
  if x.mantissa = 0 then ⟨0, 0⟩
  else
    let k := x.scale
    let found := (List.range 17).findSome? fun n => x.onGrid? tie (k - (n + 1 : Nat))
    (found.getD ⟨x.floorAt (k - 17), k - 17⟩).strip

end ServiceCharter.Decimal

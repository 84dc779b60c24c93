import ServiceCharter.Decimal.Shortest

/-!
# Decimal notation

A `Layout` says how a format writes its numbers: where positional notation ends, whether a whole
number keeps a fraction digit, and which of two equally near decimals is taken. The digits are
always the fewest that read back.
-/

namespace ServiceCharter.Decimal

/-- The decisions of a format that writes binary64 numbers. -/
structure Layout where
  /-- The least exponent of a leading digit that is written positionally; no bound if absent. -/
  plainFrom : Option Int
  /-- The least exponent of a leading digit that is too great for positional notation. -/
  plainBelow : Option Int
  /-- Whole numbers in positional notation end in `.0`. -/
  pointZero : Bool
  /-- The choice between two equally near decimals. -/
  tie : Tie

namespace Layout

/-- `n` zeros. -/
def zeros (n : Nat) : List Char := List.replicate n '0'

/-- The decimal with the digits `ds`, whose leading digit has the exponent `x`, in full. -/
def positional (l : Layout) (ds : List Char) (x : Int) : List Char :=
  if x < 0 then ['0', '.'] ++ zeros ((-x).toNat - 1) ++ ds
  else
    let whole := x.toNat + 1
    if ds.length ≤ whole then
      ds ++ zeros (whole - ds.length) ++ (if l.pointZero then ['.', '0'] else [])
    else ds.take whole ++ ['.'] ++ ds.drop whole

/-- The decimal with the digits `ds`, whose leading digit has the exponent `x`, as a power of
ten. -/
def scientific (ds : List Char) (x : Int) : List Char :=
  let point := if ds.length ≤ 1 then [] else ['.']
  let sign := if x < 0 then ['-'] else ['+']
  ds.take 1 ++ point ++ ds.drop 1 ++ ['e'] ++ sign ++ Nat.toDigits 10 x.natAbs

/-- The text of a finite number without its sign. -/
def magnitude (l : Layout) (bits : UInt64) : List Char :=
  let d := shortest l.tie (Binary.ofBits bits)
  let ds := Nat.toDigits 10 d.digits
  let x := d.exponent + ds.length - 1
  if l.plainFrom.all (· ≤ x) && l.plainBelow.all (x < ·) then l.positional ds x
  else scientific ds x

/-- Whether the sign bit is set. -/
def isNegative (bits : UInt64) : Bool := bits >>> 63 != 0

/-- Whether the bits are those of a finite number. -/
def isFinite (bits : UInt64) : Bool := (bits >>> 52) &&& 0x7FF != 0x7FF

/-- The text of the number with the given bits. -/
def write (l : Layout) (bits : UInt64) : String :=
  let sign := if isNegative bits then ['-'] else []
  if isFinite bits then String.ofList (sign ++ l.magnitude bits)
  else if bits &&& 0xFFFFFFFFFFFFF = 0 then String.ofList (sign ++ ['i', 'n', 'f'])
  else "NaN"

end Layout

end ServiceCharter.Decimal

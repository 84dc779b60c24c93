import ServiceCharter.Decimal.Nearest
import ServiceCharter.Text.Hexadecimal
import ServiceCharter.Toml.Value

/-!
# Numbers in TOML

Digits may be grouped by single underscores between them. An integer has 64 bits with sign; it is
decimal without leading zeros, or without sign in base 16, 8 or 2 behind `0x`, `0o` or `0b`. A
number with a fraction or an exponent is the nearest binary64 value, and one that rounds to positive
infinity is refused.
-/

namespace ServiceCharter.Toml

namespace Numeral

/-- Further digits at the head of the text, without the underscores between them. -/
def moreDigits? (isDigit : Char → Bool) : Text → Option (Text × Text)
  | [] => some ([], [])
  | c :: t =>
    match c, t with
    | '_', d :: r =>
      if isDigit d then (moreDigits? isDigit r).map fun (ds, rest) => (d :: ds, rest) else none
    | '_', [] => none
    | c, t =>
      if isDigit c then (moreDigits? isDigit t).map fun (ds, rest) => (c :: ds, rest)
      else some ([], c :: t)

/-- One or more digits at the head of the text, without the underscores between them. -/
def digits? (isDigit : Char → Bool) : Text → Option (Text × Text)
  | c :: t =>
    if isDigit c then (moreDigits? isDigit t).map fun (ds, rest) => (c :: ds, rest) else none
  | [] => none

/-- The digits of a whole number: a zero stands alone. -/
def wholeDigits? : Text → Option (Text × Text)
  | '0' :: t => some (['0'], t)
  | t => digits? Char.isDigit t

/-- Whether `c` is a digit in a base of at most 16. -/
def isDigitIn (base : Nat) (c : Char) : Bool := (Text.hexDigit? c).any (· < base)

/-- The number with the given digits in a base of at most 16. -/
def ofDigits (base : Nat) (ds : Text) : Nat :=
  ds.foldl (fun n d => n * base + (Text.hexDigit? d).getD 0) 0

/-- The least number beyond the integers. -/
def limit : Nat := 1 <<< 63

/-- An integer in another base than ten, after its mark. -/
def readBased? (base : Nat) (t : Text) : Option (Value × Text) :=
  (digits? (isDigitIn base) t).bind fun (ds, rest) =>
    if ofDigits base ds < limit then some (.integer (ofDigits base ds), rest) else none

/-- The binary64 number with a sign, refused if it is positive infinity. -/
def float? (negative : Bool) (digits : Text) (exponent : Int) : Option Value :=
  let f := Decimal.nearest (ofDigits 10 digits) exponent
  if negative then some (.float (-f).toBits)
  else if f.isInf then none
  else some (.float f.toBits)

/-- The exponent at the head of the text, behind its mark: an optional sign and digits. -/
def readExponent? (t : Text) : Option (Int × Text) :=
  match t with
  | '+' :: r => (digits? Char.isDigit r).map fun (ds, rest) => ((ofDigits 10 ds : Int), rest)
  | '-' :: r => (digits? Char.isDigit r).map fun (ds, rest) => (-(ofDigits 10 ds : Int), rest)
  | t => (digits? Char.isDigit t).map fun (ds, rest) => ((ofDigits 10 ds : Int), rest)

/-- The number whose digits before any exponent are read; `places` of them follow the point. -/
def readScaled? (negative : Bool) (ds : Text) (places : Nat) (t : Text) : Option (Value × Text) :=
  let scaled (t : Text) : Option (Value × Text) :=
    (readExponent? t).bind fun (e, rest) =>
      (float? negative ds (e - places)).map fun v => (v, rest)
  match t with
  | 'e' :: r => scaled r
  | 'E' :: r => scaled r
  | t => (float? negative ds (-(places : Int))).map fun v => (v, t)

/-- An integer in base ten with a sign. -/
def integer? (negative : Bool) (ds : Text) : Option Value :=
  let n := ofDigits 10 ds
  if negative then if n ≤ limit then some (.integer (-(n : Int))) else none
  else if n < limit then some (.integer n) else none

/-- A number in base ten after its sign. -/
def readDecimal? (negative : Bool) (t : Text) : Option (Value × Text) :=
  (wholeDigits? t).bind fun (ds, rest) =>
    match rest with
    | '.' :: r =>
      (digits? Char.isDigit r).bind fun (fs, rest) => readScaled? negative (ds ++ fs) fs.length rest
    | 'e' :: _ => readScaled? negative ds 0 rest
    | 'E' :: _ => readScaled? negative ds 0 rest
    | rest => (integer? negative ds).map fun v => (v, rest)

/-- The bits of positive infinity. -/
def infinityBits : UInt64 := 0x7FF0000000000000

/-- The bits of a value that is no number. -/
def nanBits : UInt64 := 0x7FF8000000000000

/-- The bits of a negative sign. -/
def signBit : UInt64 := 0x8000000000000000

/-- A number after its sign, or one of the words for infinity and for no number. -/
def readSigned? (negative : Bool) (t : Text) : Option (Value × Text) :=
  let bits (b : UInt64) : Value := .float (if negative then b ||| signBit else b)
  match t with
  | 'i' :: 'n' :: 'f' :: r => some (bits infinityBits, r)
  | 'n' :: 'a' :: 'n' :: r => some (bits nanBits, r)
  | t => readDecimal? negative t

/-- A number at the head of the text. -/
def read? (t : Text) : Option (Value × Text) :=
  match t with
  | '0' :: 'x' :: r => readBased? 16 r
  | '0' :: 'o' :: r => readBased? 8 r
  | '0' :: 'b' :: r => readBased? 2 r
  | '+' :: r => readSigned? false r
  | '-' :: r => readSigned? true r
  | t => readSigned? false t

end Numeral

end ServiceCharter.Toml

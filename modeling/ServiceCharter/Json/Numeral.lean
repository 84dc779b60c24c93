import ServiceCharter.Json.Fault
import ServiceCharter.Json.Value

/-!
# JSON numerals

A numeral without fraction and exponent that fits 64 bits is an integer. Any other is a binary64
value, computed from at most 64 bits of its digits: a digit that no longer fits is dropped, and the
power of ten takes its place into account. The product with that power is rounded once, so the
value may differ from the nearest one in its last bits; a value beyond the range is an error.
-/

namespace ServiceCharter.Json

namespace Numeral

/-- The greatest significand. -/
def limit : Nat := (1 <<< 64) - 1

/-- The value of a digit. -/
def digit? (c : Char) : Option Nat :=
  if c.isDigit then some (c.toNat - '0'.toNat) else none

/-- Digits as far as they fit: the significand, the number of digits used, the number of digits
dropped, and what follows the digits. -/
structure Digits where
  significand : Nat
  used : Nat
  dropped : Nat
  rest : Text

/-- Appends the digits at the head of the text to `significand`. From the first digit that does not
fit, all digits are dropped. -/
def Digits.read (significand used : Nat) : Text → Digits
  | [] => ⟨significand, used, 0, []⟩
  | c :: t =>
    match digit? c with
    | none => ⟨significand, used, 0, c :: t⟩
    | some d =>
      if significand * 10 + d ≤ limit then read (significand * 10 + d) (used + 1) t
      else
        let ds := (c :: t).takeWhile Char.isDigit
        ⟨significand, used, ds.length, (c :: t).drop ds.length⟩

/-- The power of ten with exponent `k`. -/
def powerOfTen (k : Nat) : Float := Float.ofScientific 1 false k

/-- `f * 10 ^ e`, or nothing if it is too great. Steps of `10 ^ 308` bring a small exponent into
the range of the powers of ten. -/
def scale? (f : Float) (e : Int) : Option Float :=
  if 308 < e then if f == 0 then some f else none
  else if 0 ≤ e then
    let g := f * powerOfTen e.toNat
    if g.isInf then none else some g
  else if -308 ≤ e then some (f / powerOfTen (-e).toNat)
  else if f == 0 then some f
  else scale? (f / powerOfTen 308) (e + 308)
termination_by e.natAbs

/-- The binary64 number `significand * 10 ^ exponent` with its sign, read up to `rest`. -/
def double (negative : Bool) (significand : Nat) (exponent : Int) (rest : Text) :
    Except Fault (Number × Text) :=
  match scale? (Float.ofNat significand) exponent with
  | some f => .ok (.double (if negative then -f else f).toBits, rest)
  | none => .error (.here .numberOutOfRange rest)

/-- The greatest exponent that is read; beyond it only zero and underflow remain. -/
def exponentLimit : Nat := (1 <<< 31) - 1

/-- Appends the digits at the head of the text to the exponent; on a digit that makes it too great,
the text after that digit. -/
def readExponentDigits (exponent : Nat) : Text → Except Text (Nat × Text)
  | [] => .ok (exponent, [])
  | c :: t =>
    match digit? c with
    | none => .ok (exponent, c :: t)
    | some d =>
      if exponent * 10 + d ≤ exponentLimit then readExponentDigits (exponent * 10 + d) t
      else .error t

/-- The number after its exponent mark, with `start` to be added to the exponent. -/
def readExponent (negative : Bool) (significand : Nat) (start : Int) (t : Text) :
    Except Fault (Number × Text) :=
  let (down, t) :=
    match t with
    | '+' :: t => (false, t)
    | '-' :: t => (true, t)
    | t => (false, t)
  match t with
  | [] => .error (.here .endInValue [])
  | c :: r =>
    match digit? c with
    | none => .error (.next .invalidNumber (c :: r))
    | some d =>
      match readExponentDigits d r with
      | .ok (e, rest) =>
        let exponent := if down then start - e else start + e
        let bounded := max (-(exponentLimit : Int) - 1) (min exponent exponentLimit)
        double negative significand bounded rest
      | .error rest =>
        -- The exponent is too great to be read: the number is out of range, or a zero.
        if significand ≠ 0 ∧ !down then .error (.here .numberOutOfRange rest)
        else double negative 0 0 (rest.dropWhile Char.isDigit)

/-- The number after its decimal point, with `start` to be added to the exponent. -/
def readFraction (negative : Bool) (significand : Nat) (start : Int) (t : Text) :
    Except Fault (Number × Text) :=
  let ds := Digits.read significand 0 t
  if ds.used = 0 ∧ ds.dropped = 0 then
    .error (.next (if t.isEmpty then .endInValue else .invalidNumber) t)
  else
    let exponent := start - ds.used
    match ds.rest with
    | 'e' :: r => readExponent negative ds.significand exponent r
    | 'E' :: r => readExponent negative ds.significand exponent r
    | rest => double negative ds.significand exponent rest

/-- The number whose whole part has been read. -/
def readTail (negative : Bool) (ds : Digits) : Except Fault (Number × Text) :=
  match ds.rest with
  | '.' :: r => readFraction negative ds.significand ds.dropped r
  | 'e' :: r => readExponent negative ds.significand ds.dropped r
  | 'E' :: r => readExponent negative ds.significand ds.dropped r
  | rest =>
    if ds.dropped ≠ 0 then double negative ds.significand ds.dropped rest
    else if !negative then .ok (.integer ds.significand, rest)
    -- The integers have no negative zero.
    else if ds.significand = 0 ∨ 1 <<< 63 < ds.significand then
      double true ds.significand 0 rest
    else .ok (.integer (-(ds.significand : Int)), rest)

/-- The number after its sign. -/
def readUnsigned (negative : Bool) : Text → Except Fault (Number × Text)
  | [] => .error (.here .endInValue [])
  | c :: t =>
    match digit? c with
    | none => .error (.next .invalidNumber (c :: t))
    | some 0 =>
      match t with
      | d :: r =>
        if d.isDigit then .error (.next .invalidNumber (d :: r))
        else readTail negative ⟨0, 1, 0, d :: r⟩
      | [] => readTail negative ⟨0, 1, 0, []⟩
    | some d => readTail negative (Digits.read d 1 t)

end Numeral

end ServiceCharter.Json

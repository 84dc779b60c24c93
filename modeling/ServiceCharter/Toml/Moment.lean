import ServiceCharter.Text.Basic

/-!
# Dates and times in TOML

A moment is a date, a time of day, or both with an optional offset from UTC. It is written with `T`
between date and time, without trailing zeros in the fraction of a second, and with `Z` for UTC.
Fractions have at most nine digits; further ones are cut off.
-/

namespace ServiceCharter.Toml

/-- A day of the calendar. -/
structure Date where
  year : Nat
  month : Nat
  day : Nat
deriving DecidableEq, Repr

/-- A time of day. -/
structure Time where
  hour : Nat
  minute : Nat
  second : Nat
  /-- The digits of the fraction, at most nine and without trailing zeros. -/
  fraction : Text
deriving DecidableEq, Repr

/-- An offset from UTC. -/
inductive Offset where
  | utc
  | custom (minutes : Int)
deriving DecidableEq, Repr

/-- A date, a time, or a date with a time. -/
inductive Moment where
  | date (d : Date)
  | time (t : Time)
  | both (d : Date) (t : Time) (offset : Option Offset)
deriving DecidableEq, Repr

/-! ### Writing -/

/-- The decimal digits of `n`, with zeros in front up to `width`. -/
def padded (width n : Nat) : Text :=
  let ds := Nat.toDigits 10 n
  List.replicate (width - ds.length) '0' ++ ds

/-- The text of a date. -/
def Date.toText (d : Date) : Text :=
  padded 4 d.year ++ ['-'] ++ padded 2 d.month ++ ['-'] ++ padded 2 d.day

/-- The text of a time. -/
def Time.toText (t : Time) : Text :=
  padded 2 t.hour ++ [':'] ++ padded 2 t.minute ++ [':'] ++ padded 2 t.second ++
    (if t.fraction.isEmpty then [] else ['.'] ++ t.fraction)

/-- The text of an offset. -/
def Offset.toText : Offset → Text
  | utc => ['Z']
  | custom m =>
    [if m < 0 then '-' else '+'] ++ padded 2 (m.natAbs / 60) ++ [':'] ++ padded 2 (m.natAbs % 60)

/-- The text of a moment. -/
def Moment.toText : Moment → Text
  | date d => d.toText
  | time t => t.toText
  | both d t offset => d.toText ++ ['T'] ++ t.toText ++ (offset.map Offset.toText).getD []

/-! ### Reading -/

/-- The number that two digits at the head of the text write, up to a greatest one. -/
def twoDigits? (greatest : Nat) : Text → Option (Nat × Text)
  | a :: b :: t =>
    let n := (a.toNat - 48) * 10 + (b.toNat - 48)
    if a.isDigit && b.isDigit && n ≤ greatest then some (n, t) else none
  | _ => none

/-- What follows `c` at the head of the text. -/
def afterChar? (c : Char) : Text → Option Text
  | d :: t => if d = c then some t else none
  | [] => none

/-- The number of days of a month. -/
def daysOfMonth (year month : Nat) : Nat :=
  if month = 2 then
    if year % 4 = 0 ∧ (year % 100 ≠ 0 ∨ year % 400 = 0) then 29 else 28
  else if month ∈ [4, 6, 9, 11] then 30
  else 31

/-- A date at the head of the text. -/
def Date.read? (t : Text) : Option (Date × Text) := do
  let (century, t) ← twoDigits? 99 t
  let (yearOfCentury, t) ← twoDigits? 99 t
  let year := century * 100 + yearOfCentury
  let (month, t) ← twoDigits? 12 (← afterChar? '-' t)
  let (day, t) ← twoDigits? (daysOfMonth year month) (← afterChar? '-' t)
  if month = 0 ∨ day = 0 then none else some (⟨year, month, day⟩, t)

/-- The fraction of a second at the head of the text; empty if there is none. -/
def readFraction (t : Text) : Text × Text :=
  match t with
  | '.' :: r =>
    let ds := r.takeWhile Char.isDigit
    if ds.isEmpty then ([], t)
    else (((ds.take 9).reverse.dropWhile (· == '0')).reverse, r.dropWhile Char.isDigit)
  | _ => ([], t)

/-- A time at the head of the text. -/
def Time.read? (t : Text) : Option (Time × Text) := do
  let (hour, t) ← twoDigits? 23 t
  let (minute, t) ← twoDigits? 59 (← afterChar? ':' t)
  let (second, t) ← twoDigits? 60 (← afterChar? ':' t)
  let (fraction, t) := readFraction t
  some (⟨hour, minute, second, fraction⟩, t)

/-- An offset at the head of the text, if a time is followed by one. -/
def Offset.read? (t : Text) : Option (Option Offset × Text) :=
  let signed (sign : Int) (t : Text) : Option (Option Offset × Text) := do
    let (hours, t) ← twoDigits? 23 t
    let (minutes, t) ← twoDigits? 59 (← afterChar? ':' t)
    some (some (custom (sign * (hours * 60 + minutes))), t)
  match t with
  | 'Z' :: r => some (some utc, r)
  | 'z' :: r => some (some utc, r)
  | '+' :: r => signed 1 r
  | '-' :: r => signed (-1) r
  | _ => some (none, t)

/-- Whether a time begins at the head of the text: two digits and a colon. -/
def startsTime : Text → Bool
  | a :: b :: c :: _ => a.isDigit && b.isDigit && c == ':'
  | _ => false

/-- Whether a date begins at the head of the text: four digits and a hyphen. -/
def startsDate : Text → Bool
  | a :: b :: c :: d :: e :: _ => [a, b, c, d].all Char.isDigit && e == '-'
  | _ => false

/-- A date at the head of the text, with the time that follows it behind `T` or a blank. -/
def readDateAndTime? (t : Text) : Option (Moment × Text) := do
  let (d, t) ← Date.read? t
  match t with
  | c :: r =>
    if (c == 'T' || c == 't' || c == ' ') && startsTime r then
      let (time, r) ← Time.read? r
      let (offset, r) ← Offset.read? r
      some (.both d time offset, r)
    else some (.date d, t)
  | [] => some (.date d, t)

end ServiceCharter.Toml

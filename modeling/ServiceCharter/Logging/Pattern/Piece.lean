import ServiceCharter.Text.Blank
import ServiceCharter.Text.Hexadecimal

/-!
# Pieces of patterns

A pattern is a regular expression that a value is matched with. Here are its smallest pieces:
escapes, and classes in brackets. All readers answer what they have read and the text behind it, or
nothing if no pattern can go on like this.

What a pattern matches is text in UTF-8. Outside of Unicode mode, therefore, every piece is refused
that could match a byte beyond ASCII: complements, and escaped bytes from 128 on.
-/

namespace ServiceCharter.Logging.Pattern

/-! ### Modes -/

/-- What the flags in force say about reading. -/
structure Mode where
  /-- Whether classes and word boundaries are those of Unicode. -/
  unicode : Bool
  /-- Whether white space and comments stand for nothing. -/
  spaced : Bool
deriving DecidableEq, Repr

/-- The text behind white space and comments; a comment ends with its line. -/
def skipSpace : (comment : Bool) → Text → Text
  | _, [] => []
  | true, c :: t => skipSpace (c != '\n') t
  | false, c :: t =>
    if c = '#' then skipSpace true t else if Text.isBlank c then skipSpace false t else c :: t

/-- The text behind what stands for nothing. -/
def Mode.skip (m : Mode) (t : Text) : Text := if m.spaced then skipSpace false t else t

/-! ### Escapes -/

/-- What an escape stands for. -/
inductive Escape where
  | literal (c : Char)
  /-- One character of a set. -/
  | set
  /-- A place at a start or an end. -/
  | anchor
  /-- The start or the end of a word, or its inside. -/
  | wordBoundary
deriving DecidableEq, Repr

/-- The number that `count` hexadecimal digits write, behind those of `n`. What stands for nothing
may stand between them. -/
def readHex? (m : Mode) : (count n : Nat) → Text → Option (Nat × Text)
  | 0, n, t => some (n, t)
  | count + 1, n, t =>
    match m.skip t with
    | [] => none
    | c :: t => (Text.hexDigit? c).bind fun d => readHex? m count (n * 16 + d) t

/-- The character that `count` hexadecimal digits number. -/
def readNumbered? (m : Mode) (count : Nat) (t : Text) : Option (Escape × Text) :=
  (readHex? m count 0 t).bind fun (n, t) =>
    let isByte := !m.unicode && count == 2
    if n.isValidChar ∧ ¬(isByte ∧ 128 ≤ n) then some (.literal (Char.ofNat n), t) else none

/-- The letters that name a general category of characters. -/
def categoryLetters : Text := "CLMNPSZclmnpsz".toList

/-- A general category of characters. -/
def readCategory? (m : Mode) (t : Text) : Option (Escape × Text) :=
  match m.skip t with
  | c :: t => if m.unicode ∧ c ∈ categoryLetters then some (.set, t) else none
  | [] => none

/-- The characters that letters stand for. -/
def controls : List (Char × Char) :=
  [('a', '\x07'), ('f', '\x0c'), ('t', '\t'), ('n', '\n'), ('r', '\r'), ('v', '\x0b')]

/-- What a single escaped character stands for. -/
def single? (m : Mode) (c : Char) : Option Escape :=
  if c ∈ ['d', 's', 'w'] then some .set
  else if c ∈ ['D', 'S', 'W'] then if m.unicode then some .set else none
  else if c ∈ ['A', 'z'] then some .anchor
  else if c ∈ ['b', 'B', '<', '>'] then some .wordBoundary
  else if c.toNat < 128 ∧ ¬c.isAlphanum then some (.literal c)
  else (controls.lookup c).map .literal

/-- The escape behind a backslash. -/
def readEscape? (m : Mode) : Text → Option (Escape × Text)
  | [] => none
  | 'x' :: t => readNumbered? m 2 t
  | 'u' :: t => readNumbered? m 4 t
  | 'U' :: t => readNumbered? m 8 t
  | 'p' :: t => readCategory? m t
  | 'P' :: t => readCategory? m t
  | c :: t => (single? m c).map fun e => (e, t)

/-! ### Classes -/

/-- The text behind the sign of a complement, if there is one. -/
def skipComplement? (m : Mode) : Text → Option Text
  | '^' :: t => if m.unicode then some t else none
  | t => some t

/-- Whether only hyphens can have been read when a class has begun, and the text behind its
beginning. A bracket that closes stands for itself there. -/
def openClass? (m : Mode) (t : Text) : Option (Bool × Text) :=
  (skipComplement? m (m.skip t)).map fun t =>
    match m.skip t with
    | ']' :: t => (false, t)
    | t => (true, t)

/-- The names of the classes of ASCII characters. -/
def asciiClasses : List String :=
  ["alnum", "alpha", "ascii", "blank", "cntrl", "digit", "graph", "lower", "print", "punct",
    "space", "upper", "word", "xdigit"]

/-- Whether a class of ASCII characters is a complement, and the text behind it; its first bracket
is left out. -/
def readAsciiClass? : Text → Option (Bool × Text)
  | ':' :: t =>
    let complement := t.head? == some '^'
    let name := if complement then t.tail else t
    match name.dropWhile (· != ':') with
    | ':' :: ']' :: rest =>
      if String.ofList (name.takeWhile (· != ':')) ∈ asciiClasses then some (complement, rest)
      else none
    | _ => none
  | _ => none

/-- One end of a range, or a class. -/
def readItem? (m : Mode) : Text → Option (Option Char × Text)
  | [] => none
  | '\\' :: t =>
    (readEscape? m t).bind fun (e, t) =>
      match e with
      | .literal c => some (some c, t)
      | .set => some (none, t)
      | _ => none
  | c :: t => if m.unicode ∨ c.toNat < 128 then some (some c, t) else none

/-- The text behind an item of a class. A range goes from a character to one that is not before
it. -/
def readRange? (m : Mode) (t : Text) : Option Text :=
  (readItem? m t).bind fun (first, t) =>
    match m.skip t with
    | '-' :: rest =>
      let behind := m.skip rest
      -- Before another hyphen or the end of the class, a hyphen makes no range.
      if behind.head? = some ']' ∨ behind.head? = some '-' then some ('-' :: rest)
      else
        (readItem? m behind).bind fun (last, t) =>
          match first, last with
          | some a, some b => if a ≤ b then some t else none
          | _, _ => none
    | t => some t

/-- The text behind a class that is `depth` classes deep in another. `start` says whether it has
only hyphens yet, and `fuel` bounds the number of items. -/
def readItems? (m : Mode) : (fuel depth : Nat) → (start : Bool) → Text → Option Text
  | 0, _, _, _ => none
  | fuel + 1, depth, start, t =>
    match m.skip t with
    | [] => none
    | ']' :: t =>
      match depth with
      | 0 => some t
      | depth + 1 => readItems? m fuel depth false t
    | '[' :: t =>
      match readAsciiClass? t with
      | some (complement, t) =>
        if complement ∧ ¬m.unicode then none else readItems? m fuel depth false t
      | none =>
        (openClass? m t).bind fun (start, t) => readItems? m fuel (depth + 1) start t
    | t =>
      if start ∧ t.head? = some '-' then readItems? m fuel depth true t.tail
      else
        match t with
        | '&' :: '&' :: t => readItems? m fuel depth false t
        | '-' :: '-' :: t => readItems? m fuel depth false t
        | '~' :: '~' :: t => readItems? m fuel depth false t
        | t => (readRange? m t).bind fun t => readItems? m fuel depth false t

/-- The text behind a class, whose first bracket is left out. -/
def readClass? (m : Mode) (t : Text) : Option Text :=
  (openClass? m t).bind fun (start, rest) => readItems? m t.length 0 start rest

end ServiceCharter.Logging.Pattern

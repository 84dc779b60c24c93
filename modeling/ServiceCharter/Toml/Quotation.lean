import ServiceCharter.Text.Blank
import ServiceCharter.Text.Hexadecimal

/-!
# Strings in TOML

A basic string stands in double quotes and knows escapes, a literal string stands in single quotes
and takes every character as it is. Both exist on one line and, in three quotes, on several. In the
latter a line feed directly behind the opening quotes does not count, up to two quotes may stand in
a row, and two more may precede the closing ones. A backslash at the end of a line takes away all
blanks and line ends that follow.
-/

namespace ServiceCharter.Toml

/-- What follows the line end at the head of a text: a line feed, perhaps behind a carriage
return. -/
def afterLineEnd? : Text → Option Text
  | '\n' :: t => some t
  | '\r' :: '\n' :: t => some t
  | _ => none

/-- Whether `c` may stand in strings and comments: no control character but the tab. -/
def isPlain (c : Char) : Bool := c == '\t' || (0x20 ≤ c.toNat && c.toNat != 0x7F)

/-! ### Escapes -/

/-- The character with a number, if there is one. -/
def scalar? (n : Nat) : Option Char := if n.isValidChar then some (Char.ofNat n) else none

/-- The character that a letter stands for after a backslash. -/
def unescape? : Char → Option Char
  | 'b' => some '\x08'
  | 't' => some '\t'
  | 'n' => some '\n'
  | 'f' => some '\x0c'
  | 'r' => some '\r'
  | '"' => some '"'
  | '\\' => some '\\'
  | _ => none

/-- The number of hexadecimal digits that follow a letter after a backslash. -/
def numberWidth? : Char → Option Nat
  | 'u' => some 4
  | 'U' => some 8
  | _ => none

/-- The character that an escape stands for, after its backslash. -/
def readEscape? : Text → Option (Char × Text)
  | [] => none
  | c :: t =>
    match numberWidth? c with
    | some width =>
      (Text.hexNumber? width 0 t).bind fun (n, rest) => (scalar? n).map fun e => (e, rest)
    | none => (unescape? c).map fun e => (e, t)

theorem length_of_readEscape? {t r : Text} {c : Char} (h : readEscape? t = some (c, r)) :
    r.length < t.length := by
  cases t with
  | nil => cases h
  | cons d t =>
    simp only [readEscape?] at h
    split at h
    · simp only [Option.bind_eq_some_iff, Option.map_eq_some_iff, Prod.exists,
        Prod.mk.injEq] at h
      obtain ⟨n, rest, hn, e, -, -, rfl⟩ := h
      have hlen := Text.length_of_hexNumber? hn
      rw [List.length_cons]
      omega
    · simp only [Option.map_eq_some_iff, Prod.mk.injEq] at h
      obtain ⟨e, -, -, rfl⟩ := h
      exact Nat.lt_succ_self _

/-! ### Strings of one line -/

/-- The characters of a basic string behind its opening quote, and what follows the closing one. -/
def readBasic? : Text → Option (Text × Text)
  | [] => none
  | c :: t =>
    if c = '"' then some ([], t)
    else if c = '\\' then
      match h : readEscape? t with
      | none => none
      | some (e, rest) =>
        have := length_of_readEscape? h
        (readBasic? rest).map fun (s, rest) => (e :: s, rest)
    else if isPlain c then (readBasic? t).map fun (s, rest) => (c :: s, rest)
    else none
termination_by t => t.length

/-- The characters of a literal string behind its opening quote, and what follows the closing
one. -/
def readLiteral? : Text → Option (Text × Text)
  | [] => none
  | c :: t =>
    if c = '\'' then some ([], t)
    else if isPlain c then (readLiteral? t).map fun (s, rest) => (c :: s, rest)
    else none

/-! ### Strings of several lines -/

/-- The end of a string of several lines at the head of the text: at most two quotes that belong to
the string, and three that close it. -/
def closing? (quote : Char) (t : Text) : Option (Text × Text) :=
  let count := (t.takeWhile (· == quote)).length
  if count < 3 then none
  else
    let inner := min (count - 3) 2
    some (List.replicate inner quote, t.drop (inner + 3))

/-- The text without the blanks and line ends at its head. -/
def skipLines : Text → Text
  | [] => []
  | c :: t =>
    match c, t with
    | ' ', t => skipLines t
    | '\t', t => skipLines t
    | '\n', t => skipLines t
    | '\r', '\n' :: t => skipLines t
    | c, t => c :: t

private theorem length_skipLines (t : Text) : (skipLines t).length ≤ t.length := by
  fun_induction skipLines t <;> simp_all <;> omega

/-- What follows a backslash that ends its line. -/
def afterContinuation? (t : Text) : Option Text :=
  (afterLineEnd? (t.dropWhile Text.isTabOrSpace)).map skipLines

private theorem length_of_afterLineEnd? {t r : Text} (h : afterLineEnd? t = some r) :
    r.length < t.length := by
  unfold afterLineEnd? at h
  split at h
  · cases h; exact Nat.lt_succ_self _
  · cases h; simp only [List.length_cons]; omega
  · cases h

private theorem length_of_afterContinuation? {t r : Text} (h : afterContinuation? t = some r) :
    r.length < t.length := by
  simp only [afterContinuation?, Option.map_eq_some_iff] at h
  obtain ⟨s, hs, rfl⟩ := h
  have h₁ := length_of_afterLineEnd? hs
  have h₂ := (List.dropWhile_sublist Text.isTabOrSpace (l := t)).length_le
  have h₃ := length_skipLines s
  omega

/-- The characters of a basic string of several lines, and what follows its closing quotes. -/
def readLongBasic? (t : Text) : Option (Text × Text) :=
  match closing? '"' t with
  | some found => some found
  | none =>
    match t with
    | [] => none
    | c :: r =>
      if c = '\\' then
        match h : afterContinuation? r with
        | some rest =>
          have := length_of_afterContinuation? h
          readLongBasic? rest
        | none =>
          match h : readEscape? r with
          | none => none
          | some (e, rest) =>
            have := length_of_readEscape? h
            (readLongBasic? rest).map fun (s, rest) => (e :: s, rest)
      else
        match h : afterLineEnd? (c :: r) with
        | some rest =>
          have := length_of_afterLineEnd? h
          (readLongBasic? rest).map fun (s, rest) => ('\n' :: s, rest)
        | none =>
          if isPlain c then (readLongBasic? r).map fun (s, rest) => (c :: s, rest) else none
termination_by t.length
decreasing_by all_goals simp_all <;> omega

/-- The characters of a literal string of several lines, and what follows its closing quotes. -/
def readLongLiteral? (t : Text) : Option (Text × Text) :=
  match closing? '\'' t with
  | some found => some found
  | none =>
    match h : afterLineEnd? t with
    | some rest =>
      have := length_of_afterLineEnd? h
      (readLongLiteral? rest).map fun (s, rest) => ('\n' :: s, rest)
    | none =>
      match t with
      | [] => none
      | c :: r =>
        if isPlain c then (readLongLiteral? r).map fun (s, rest) => (c :: s, rest) else none
termination_by t.length
decreasing_by all_goals simp_all

/-- A string at the head of the text, whose first character is the opening quote. -/
def readString? (t : Text) : Option (Text × Text) :=
  let inside (t : Text) : Text := (afterLineEnd? t).getD t
  match t with
  | '"' :: '"' :: '"' :: r => readLongBasic? (inside r)
  | '"' :: r => readBasic? r
  | '\'' :: '\'' :: '\'' :: r => readLongLiteral? (inside r)
  | '\'' :: r => readLiteral? r
  | _ => none

end ServiceCharter.Toml

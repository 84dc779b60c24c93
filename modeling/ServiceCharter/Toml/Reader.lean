import ServiceCharter.Toml.Entry
import ServiceCharter.Toml.Numeral
import ServiceCharter.Toml.Quotation

/-!
# Reading TOML

`parse?` reads a whole document. It first turns the text into statements and then builds the table
that they make. Brackets and braces of values may be nested less than eighty deep, and a dotted key
has less than eighty parts.
-/

namespace ServiceCharter.Toml

/-- The text without the blanks at its head. -/
def skipSpaces (t : Text) : Text := t.dropWhile Text.isTabOrSpace

/-- What follows a comment and the end of its line, where `#` has been read if `inComment` is set;
blanks may stand before. The end of the text ends the line, too. -/
def endOfLine? : (inComment : Bool) → Text → Option Text
  | _, [] => some []
  | inComment, c :: t =>
    match c, t with
    | '\n', t => some t
    | '\r', '\n' :: t => some t
    | c, t =>
      if inComment then if isPlain c then endOfLine? true t else none
      else if c = '#' then endOfLine? true t
      else if Text.isTabOrSpace c then endOfLine? false t
      else none

/-- The text without the blanks, line ends and comments at its head. -/
def skipGaps? : (inComment : Bool) → Text → Option Text
  | _, [] => some []
  | inComment, c :: t =>
    match c, t with
    | '\n', t => skipGaps? false t
    | '\r', '\n' :: t => skipGaps? false t
    | c, t =>
      if inComment then if isPlain c then skipGaps? true t else none
      else if c = '#' then skipGaps? true t
      else if Text.isTabOrSpace c then skipGaps? false t
      else some (c :: t)

/-! ### Keys -/

/-- Whether `c` may stand in a key without quotes. -/
def isBare (c : Char) : Bool := c.isAlphanum || c == '_' || c == '-'

/-- One part of a key at the head of the text. -/
def readKeyPart? (t : Text) : Option (String × Text) :=
  match t with
  | '"' :: r => (readBasic? r).map fun (s, rest) => (String.ofList s, rest)
  | '\'' :: r => (readLiteral? r).map fun (s, rest) => (String.ofList s, rest)
  | t =>
    let name := t.takeWhile isBare
    if name.isEmpty then none else some (String.ofList name, t.dropWhile isBare)

/-- A key of at most `parts` parts with points between them: the path, the last part, and what
follows. -/
def readKey? : (parts : Nat) → Text → Option (List String × String × Text)
  | 0, _ => none
  | parts + 1, t =>
    (readKeyPart? (skipSpaces t)).bind fun (part, rest) =>
      match skipSpaces rest with
      | '.' :: r => (readKey? parts r).map fun (path, key, rest) => (part :: path, key, rest)
      | rest => some ([], part, rest)

/-- The greatest number of parts of a key, and of brackets that are open at a time. -/
def maxDepth : Nat := 79

/-! ### Values -/

/-- The items of an array up to its closing bracket; `fuel` bounds their number. -/
def readItems? (item : Text → Option (Value × Text)) :
    (fuel : Nat) → Text → Option (List Value × Text)
  | 0, _ => none
  | fuel + 1, t =>
    (skipGaps? false t).bind fun t =>
      match t with
      | ']' :: rest => some ([], rest)
      | t =>
        (item t).bind fun (v, rest) =>
          (skipGaps? false rest).bind fun rest =>
            match rest with
            | ']' :: rest => some ([v], rest)
            | ',' :: rest => (readItems? item fuel rest).map fun (vs, rest) => (v :: vs, rest)
            | _ => none

/-- A key and its value with `=` between them. -/
def readPair? (item : Text → Option (Value × Text)) (t : Text) : Option (Pair × Text) :=
  (readKey? maxDepth t).bind fun (path, key, rest) =>
    match rest with
    | '=' :: r => (item (skipSpaces r)).map fun (v, rest) => (⟨path, key, v⟩, rest)
    | _ => none

/-- The pairs of an inline table up to its closing brace; `fuel` bounds their number. -/
def readPairs? (item : Text → Option (Value × Text)) :
    (fuel : Nat) → Text → Option (List Pair × Text)
  | 0, _ => none
  | fuel + 1, t =>
    (readPair? item t).bind fun (p, rest) =>
      match skipSpaces rest with
      | '\x7d' :: rest => some ([p], rest)
      | ',' :: rest => (readPairs? item fuel rest).map fun (ps, rest) => (p :: ps, rest)
      | _ => none

/-- An inline table behind its opening brace. -/
def readInlineTable? (item : Text → Option (Value × Text)) (t : Text) : Option (Value × Text) :=
  match skipSpaces t with
  | '\x7d' :: rest => some (.table [], rest)
  | t =>
    (readPairs? item (t.length + 1) t).bind fun (ps, rest) =>
      (inlineTable? ps).map fun members => (.table members, rest)

/-- A number, a date or a time at the head of the text. -/
def readUnquoted? (t : Text) : Option (Value × Text) :=
  if startsDate t then (readDateAndTime? t).map fun (m, rest) => (.moment m, rest)
  else if startsTime t then (Time.read? t).map fun (time, rest) => (.moment (.time time), rest)
  else Numeral.read? t

/-- A value at the head of the text, in which at most `depth` brackets may be open at a time. -/
def readValue? : (depth : Nat) → Text → Option (Value × Text)
  | depth, t =>
    match t with
    | '[' :: r =>
      match depth with
      | 0 => none
      | d + 1 =>
        (readItems? (readValue? d) (r.length + 1) r).map fun (vs, rest) => (.array vs, rest)
    | '\x7b' :: r =>
      match depth with
      | 0 => none
      | d + 1 => readInlineTable? (readValue? d) r
    | 't' :: 'r' :: 'u' :: 'e' :: r => some (.boolean true, r)
    | 'f' :: 'a' :: 'l' :: 's' :: 'e' :: r => some (.boolean false, r)
    | '"' :: _ => (readString? t).map fun (s, rest) => (.string (String.ofList s), rest)
    | '\'' :: _ => (readString? t).map fun (s, rest) => (.string (String.ofList s), rest)
    | t => readUnquoted? t

/-! ### Documents -/

/-- The header at the head of the text, behind its first bracket. -/
def readHeader? (t : Text) : Option (Statement × Text) :=
  match t with
  | '[' :: r =>
    (readKey? maxDepth r).bind fun (path, key, rest) =>
      match rest with
      | ']' :: ']' :: rest => some (.elementHeader path key, rest)
      | _ => none
  | t =>
    (readKey? maxDepth t).bind fun (path, key, rest) =>
      match rest with
      | ']' :: rest => some (.header path key, rest)
      | _ => none

/-- The statement at the head of the text. -/
def readStatement? (t : Text) : Option (Statement × Text) :=
  match t with
  | '[' :: r => readHeader? r
  | t => (readPair? (readValue? maxDepth) t).map fun (p, rest) => (.pair p, rest)

/-- The statements of a text, each with the rest of its line; `fuel` bounds the number of lines. -/
def readStatements? : (fuel : Nat) → Text → Option (List Statement)
  | 0, _ => none
  | fuel + 1, t =>
    match skipSpaces t with
    | [] => some []
    | t =>
      match endOfLine? false t with
      | some rest => readStatements? fuel rest
      | none =>
        (readStatement? t).bind fun (s, rest) =>
          (endOfLine? false rest).bind fun rest =>
            (readStatements? fuel rest).map fun ss => s :: ss

/-- The text without the mark of its byte order. -/
def skipMark : Text → Text
  | '\ufeff' :: t => t
  | t => t

/-- The members of the table that the text describes. -/
def parse? (text : Text) : Option (Table Value) :=
  let t := skipMark text
  (readStatements? (t.length + 1) t).bind document?

end ServiceCharter.Toml

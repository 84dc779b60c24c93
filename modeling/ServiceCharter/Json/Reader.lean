import ServiceCharter.Json.Numeral
import ServiceCharter.Text.Hexadecimal

/-!
# Reading JSON

`parse` reads a whole text as one value. Readers take the text that is still to be read and return
a value with what is left, so each of them consumes a piece at the head of its text. Nesting is
bounded, which makes `readValue` structural in the number of brackets that may still be opened.

An object with a repeated name keeps the last value.
-/

namespace ServiceCharter.Json

/-- Whether `c` may stand between the tokens of a JSON text. -/
def isSpace (c : Char) : Bool := c == ' ' || c == '\t' || c == '\n' || c == '\r'

/-- The text from its first character that is no JSON white space. -/
def skipSpace (t : Text) : Text := t.dropWhile isSpace

/-- Consumes the word at the head of the text. -/
def readWord : Text → Text → Except Fault Text
  | [], t => .ok t
  | _ :: _, [] => .error (.here .endInValue [])
  | w :: ws, c :: t => if c = w then readWord ws t else .error (.next .expectedWord (c :: t))

/-! ### Strings -/

/-- Four hexadecimal digits. The place of a fault is counted in bytes: with fewer than four left it
is the end of the text, and otherwise four bytes on. -/
def readHex (t : Text) : Except Fault (Nat × Text) :=
  match Text.hexNumber? 4 0 t with
  | some found => .ok found
  | none => .error (if t.byteCount < 4 then .here .endInString [] else ⟨.invalidEscape, t, 4⟩)

/-- A character given by its number, of which the first four digits are still to be read. A number
beyond `FFFF` is written as two surrogates. -/
def readNumbered (t : Text) : Except Fault (Char × Text) :=
  match readHex t with
  | .error f => .error f
  | .ok (n, r) =>
    if 0xDC00 ≤ n ∧ n ≤ 0xDFFF then .error (.here .loneSurrogate r)
    else if n < 0xD800 ∨ 0xDBFF < n then .ok (Char.ofNat n, r)
    else
      -- A high surrogate: a low one has to follow.
      match r with
      | [] => .error (.here .endInString [])
      | ['\\'] => .error (.here .endInString [])
      | '\\' :: 'u' :: s =>
        match readHex s with
        | .error f => .error f
        | .ok (m, rest) =>
          if 0xDC00 ≤ m ∧ m ≤ 0xDFFF then
            .ok (Char.ofNat (0x10000 + (n - 0xD800) * 0x400 + (m - 0xDC00)), rest)
          else .error (.here .loneSurrogate rest)
      | '\\' :: c :: s => .error (.next .unpairedSurrogate (c :: s))
      | c :: s => .error (.next .unpairedSurrogate (c :: s))

/-- The character that a letter stands for after a backslash. -/
def unescape? (c : Char) : Option Char :=
  match c with
  | '"' => some '"'
  | '\\' => some '\\'
  | '/' => some '/'
  | 'b' => some '\x08'
  | 'f' => some '\x0c'
  | 'n' => some '\n'
  | 'r' => some '\r'
  | 't' => some '\t'
  | _ => none

/-- The character that an escape stands for, after its backslash. -/
def readEscape : Text → Except Fault (Char × Text)
  | [] => .error (.here .endInString [])
  | c :: t =>
    if c = 'u' then readNumbered t
    else
      match unescape? c with
      | some e => .ok (e, t)
      | none => .error (.next .invalidEscape (c :: t))

private theorem length_of_readHex {t : Text} {n : Nat} {r : Text} (h : readHex t = .ok (n, r)) :
    r.length < t.length := by
  unfold readHex at h
  split at h
  · next hn =>
    cases h
    have hlen := Text.length_of_hexNumber? hn
    omega
  · cases h

private theorem length_of_readNumbered {t : Text} {c : Char} {r : Text}
    (h : readNumbered t = .ok (c, r)) : r.length < t.length := by
  unfold readNumbered at h
  split at h
  · cases h
  · next n s hs =>
    have hlen := length_of_readHex hs
    split at h
    · cases h
    · split at h
      · simp only [Except.ok.injEq, Prod.mk.injEq] at h; exact h.2 ▸ hlen
      · split at h
        · cases h
        · cases h
        · split at h
          · cases h
          · next hm =>
            have hlen' := length_of_readHex hm
            split at h
            · simp only [Except.ok.injEq, Prod.mk.injEq] at h
              rw [← h.2]
              simp only [List.length_cons] at hlen
              omega
            · cases h
        · cases h
        · cases h

theorem length_of_readEscape {t : Text} {c : Char} {r : Text} (h : readEscape t = .ok (c, r)) :
    r.length < t.length := by
  unfold readEscape at h
  split at h
  · cases h
  · split at h
    · exact Nat.lt_succ_of_lt (length_of_readNumbered h)
    · split at h
      · cases h; exact Nat.lt_succ_self _
      · cases h

/-- The characters of a string after its opening quote, and what follows the closing one. -/
def readString : Text → Except Fault (Text × Text)
  | [] => .error (.here .endInString [])
  | c :: t =>
    if c = '"' then .ok ([], t)
    else if c = '\\' then
      match h : readEscape t with
      | .error f => .error f
      | .ok (e, rest) =>
        have := length_of_readEscape h
        match readString rest with
        | .error f => .error f
        | .ok (s, rest) => .ok (e :: s, rest)
    else if c.toNat < 0x20 then .error (.next .controlCharacter (c :: t))
    else
      match readString t with
      | .error f => .error f
      | .ok (s, rest) => .ok (c :: s, rest)
termination_by t => t.length

/-! ### Lists, objects and values -/

/-- The items of a list up to its closing bracket. `first` says that none has been read, and `fuel`
bounds their number. -/
def readItems (item : Text → Except Fault (Value × Text)) :
    (fuel : Nat) → (first : Bool) → Text → Except Fault (List Value × Text)
  | 0, _, _ => .error (.here .endInList [])
  | fuel + 1, first, t =>
    let more (t : Text) : Except Fault (List Value × Text) :=
      match item t with
      | .error f => .error f
      | .ok (v, rest) =>
        match readItems item fuel false rest with
        | .error f => .error f
        | .ok (vs, rest) => .ok (v :: vs, rest)
    match skipSpace t with
    | [] => .error (.here .endInList [])
    | c :: r =>
      if c = ']' then .ok ([], r)
      else if first then more (c :: r)
      else if c = ',' then
        -- Behind a comma the end of the text is missed as a value, not as a list.
        match skipSpace r with
        | [] => .error (.here .endInValue [])
        | d :: s => if d = ']' then .error (.next .trailingComma (d :: s)) else more (d :: s)
      else .error (.next .expectedListSeparator (c :: r))

/-- The value of a member after its name: a colon comes first. -/
def readMemberValue (item : Text → Except Fault (Value × Text)) (t : Text) :
    Except Fault (Value × Text) :=
  match skipSpace t with
  | [] => .error (.here .endInObject [])
  | c :: r => if c = ':' then item r else .error (.next .expectedColon (c :: r))

/-- The members of an object up to its closing brace, in the order of the text. `first` says that
none has been read, and `fuel` bounds their number. -/
def readMembers (item : Text → Except Fault (Value × Text)) :
    (fuel : Nat) → (first : Bool) → Text → Except Fault (List (String × Value) × Text)
  | 0, _, _ => .error (.here .endInObject [])
  | fuel + 1, first, t =>
    let more (t : Text) : Except Fault (List (String × Value) × Text) :=
      match readString t with
      | .error f => .error f
      | .ok (name, rest) =>
        match readMemberValue item rest with
        | .error f => .error f
        | .ok (v, rest) =>
          match readMembers item fuel false rest with
          | .error f => .error f
          | .ok (ms, rest) => .ok ((String.ofList name, v) :: ms, rest)
    match skipSpace t with
    | [] => .error (.here .endInObject [])
    | c :: r =>
      if c = '\x7d' then .ok ([], r)
      else if first then
        if c = '"' then more r else .error (.next .expectedKey (c :: r))
      else if c = ',' then
        match skipSpace r with
        | [] => .error (.here .endInValue [])
        | d :: s =>
          if d = '"' then more s
          else if d = '\x7d' then .error (.next .trailingComma (d :: s))
          else .error (.next .expectedKey (d :: s))
      else .error (.next .expectedObjectSeparator (c :: r))

/-- A value at the head of the text, in which at most `depth` brackets may be open at a time. -/
def readValue : (depth : Nat) → Text → Except Fault (Value × Text)
  | depth, t =>
    match skipSpace t with
    | [] => .error (.here .endInValue [])
    | 'n' :: r => (readWord ['u', 'l', 'l'] r).map fun rest => (.null, rest)
    | 't' :: r => (readWord ['r', 'u', 'e'] r).map fun rest => (.bool true, rest)
    | 'f' :: r => (readWord ['a', 'l', 's', 'e'] r).map fun rest => (.bool false, rest)
    | '-' :: r => (Numeral.readUnsigned true r).map fun (n, rest) => (.number n, rest)
    | '"' :: r => (readString r).map fun (s, rest) => (.string (String.ofList s), rest)
    | '[' :: r =>
      match depth with
      | 0 => .error (.next .nestedTooDeep ('[' :: r))
      | d + 1 =>
        (readItems (readValue d) (r.length + 1) true r).map fun (vs, rest) => (.array vs, rest)
    | '\x7b' :: r =>
      match depth with
      | 0 => .error (.next .nestedTooDeep ('\x7b' :: r))
      | d + 1 =>
        (readMembers (readValue d) (r.length + 1) true r).map fun (ms, rest) =>
          (.object (Table.ofList ms), rest)
    | c :: r =>
      if c.isDigit then (Numeral.readUnsigned false (c :: r)).map fun (n, rest) => (.number n, rest)
      else .error (.next .expectedValue (c :: r))

/-- The number of brackets that may be open at a time. -/
def maxDepth : Nat := 127

/-- The value that the whole text is, with white space around it. -/
def parse (text : Text) : Except SyntaxError Value :=
  match readValue maxDepth text with
  | .error f => .error (f.locate text)
  | .ok (v, rest) =>
    match skipSpace rest with
    | [] => .ok v
    | c :: r => .error ((Fault.next .trailingCharacters (c :: r)).locate text)

end ServiceCharter.Json

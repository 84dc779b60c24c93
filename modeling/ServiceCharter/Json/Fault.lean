import ServiceCharter.Text.Basic

/-!
# Faults in JSON texts

A fault is met while a text is read, so it names its cause and the part of the text that was not
yet read. Only the final `SyntaxError` speaks of lines and columns, which it counts in the bytes of
UTF-8.
-/

namespace ServiceCharter.Json

/-- Why a text is not JSON. -/
inductive Cause where
  | endInValue
  | endInString
  | endInList
  | endInObject
  | expectedValue
  | expectedWord
  | invalidNumber
  | numberOutOfRange
  | controlCharacter
  | invalidEscape
  | loneSurrogate
  | unpairedSurrogate
  | trailingComma
  | expectedListSeparator
  | expectedObjectSeparator
  | expectedColon
  | expectedKey
  | trailingCharacters
  | nestedTooDeep
deriving DecidableEq, Repr

/-- The wording of a cause. -/
def Cause.message : Cause → String
  | endInValue => "EOF while parsing a value"
  | endInString => "EOF while parsing a string"
  | endInList => "EOF while parsing a list"
  | endInObject => "EOF while parsing an object"
  | expectedValue => "expected value"
  | expectedWord => "expected ident"
  | invalidNumber => "invalid number"
  | numberOutOfRange => "number out of range"
  | controlCharacter => "control character (\\u0000-\\u001F) found while parsing a string"
  | invalidEscape => "invalid escape"
  | loneSurrogate => "lone leading surrogate in hex escape"
  | unpairedSurrogate => "unexpected end of hex escape"
  | trailingComma => "trailing comma"
  | expectedListSeparator => "expected `,` or `]`"
  | expectedObjectSeparator => "expected `,` or `\x7d`"
  | expectedColon => "expected `:`"
  | expectedKey => "key must be a string"
  | trailingCharacters => "trailing characters"
  | nestedTooDeep => "recursion limit exceeded"

/-- A cause and the place where it was met: `ahead` bytes into the part of the text that is still
to be read. -/
structure Fault where
  cause : Cause
  rest : Text
  ahead : Nat
deriving DecidableEq, Repr

/-- A fault behind what has been read. -/
def Fault.here (cause : Cause) (rest : Text) : Fault := ⟨cause, rest, 0⟩

/-- A fault at the next byte, if there is one. -/
def Fault.next (cause : Cause) (rest : Text) : Fault := ⟨cause, rest, if rest.isEmpty then 0 else 1⟩

/-- A line and a column; lines count from one, and the column is the number of bytes of the line
that lie before the place. -/
structure Position where
  line : Nat
  column : Nat
deriving DecidableEq, Repr

/-- The place `offset` bytes into a text that starts at the given place. -/
def Position.advance (p : Position) : Nat → Text → Position
  | _, [] => p
  | offset, c :: t =>
    if c.utf8Size ≤ offset then
      let p' : Position := if c = '\n' then ⟨p.line + 1, 0⟩ else ⟨p.line, p.column + c.utf8Size⟩
      p'.advance (offset - c.utf8Size) t
    else ⟨p.line, p.column + offset⟩

/-- A text is not JSON: the cause and the place. -/
structure SyntaxError where
  cause : Cause
  position : Position
deriving DecidableEq, Repr

/-- The fault as an error of the whole text. -/
def Fault.locate (text : Text) (f : Fault) : SyntaxError where
  cause := f.cause
  position := Position.advance ⟨1, 0⟩ (text.byteCount - f.rest.byteCount + f.ahead) text

/-- The wording of the error. -/
def SyntaxError.message (e : SyntaxError) : String :=
  s!"{e.cause.message} at line {e.position.line} column {e.position.column}"

end ServiceCharter.Json

import ServiceCharter.Text.Quoted.Tables

/-!
# Quoted texts

A text in double quotes, as messages show it: a quote, a backslash and four control characters are
written with a backslash and a letter or digit, every other character without a glyph of its own by
its code point in lower-case hexadecimal, and all else as it stands.
-/

namespace ServiceCharter.Text

namespace Quoted

/-- What stands after the backslash for the characters that have a short form. -/
def letter? : Char → Option Char
  | '\x00' => some '0'
  | '\t' => some 't'
  | '\n' => some 'n'
  | '\r' => some 'r'
  | '\\' => some '\\'
  | '"' => some '"'
  | _ => none

/-- One character of a quoted text. -/
def writeChar (c : Char) : Text :=
  match letter? c with
  | some l => ['\\', l]
  | none =>
    if unprintableRanges.has c then
      ['\\', 'u', '\x7b'] ++ Nat.toDigits 16 c.toNat ++ ['\x7d']
    else [c]

end Quoted

/-- The text in double quotes. -/
def quoted (t : Text) : Text := ['"'] ++ t.flatMap Quoted.writeChar ++ ['"']

end ServiceCharter.Text

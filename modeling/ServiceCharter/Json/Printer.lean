import ServiceCharter.Decimal.Layout
import ServiceCharter.Json.Value
import ServiceCharter.Text.Basic

/-!
# Writing JSON

Values are written without white space. A binary64 number has the fewest digits that read back,
positionally with a fraction digit from `0.00001` up to sixteen digits before the point, and with a
signed exponent beyond. In a string only the quote, the backslash and control characters are
escaped.
-/

namespace ServiceCharter.Json

/-- How binary64 numbers are written: whole numbers keep `.0`, and on a tie the even digit wins. -/
def numberLayout : Decimal.Layout where
  plainFrom := some (-5)
  plainBelow := some 16
  pointZero := true
  tie := .toEven

/-- The text of a number. -/
def Number.toText : Number → Text
  | .integer n => (toString n).toList
  | .double bits => (numberLayout.write bits).toList

/-- A character inside a string. -/
def escapeChar (c : Char) : Text :=
  if c = '"' then ['\\', '"']
  else if c = '\\' then ['\\', '\\']
  else if c = '\x08' then ['\\', 'b']
  else if c = '\t' then ['\\', 't']
  else if c = '\n' then ['\\', 'n']
  else if c = '\x0c' then ['\\', 'f']
  else if c = '\r' then ['\\', 'r']
  else if c.toNat < 0x20 then
    let ds := Nat.toDigits 16 c.toNat
    ['\\', 'u'] ++ List.replicate (4 - ds.length) '0' ++ ds
  else [c]

/-- A string with its quotes. -/
def writeString (s : String) : Text := ['"'] ++ s.toList.flatMap escapeChar ++ ['"']

mutual

/-- The value without white space. -/
def Value.toText : Value → Text
  | .null => ['n', 'u', 'l', 'l']
  | .bool true => ['t', 'r', 'u', 'e']
  | .bool false => ['f', 'a', 'l', 's', 'e']
  | .number n => n.toText
  | .string s => writeString s
  | .array items => ['['] ++ [','].intercalate (itemTexts items) ++ [']']
  | .object members => ['\x7b'] ++ [','].intercalate (memberTexts members) ++ ['\x7d']

/-- The texts of the items of a list. -/
def itemTexts : List Value → List Text
  | [] => []
  | v :: vs => v.toText :: itemTexts vs

/-- The texts of the members of an object. -/
def memberTexts : List (String × Value) → List Text
  | [] => []
  | (name, v) :: ms => (writeString name ++ [':'] ++ v.toText) :: memberTexts ms

end

end ServiceCharter.Json

import ServiceCharter.Document
import ServiceCharter.PlainText.Replace
import ServiceCharter.Text.DecimalDigit

/-!
# Plain text

A document is reduced to plain text by four replacements: heading markers go wherever they stand,
bold spans lose their delimiters, and bullets and ordinals go at the start of a line. White space
after a marker goes with it, line feeds included. The digits of an ordinal may be those of any
script.
-/

namespace ServiceCharter.PlainText

/-- The number of white space characters at the head of a text. -/
def blankCount (t : Text) : Nat := (t.takeWhile Text.isBlank).length

/-- A marker of `length` characters with the white space after it, of which there must be some. -/
def markerHit (length : Nat) (rest : Text) : Option Hit :=
  match blankCount rest with
  | 0 => none
  -- The first character of the marker does not count among those that follow it.
  | n => some ⟨length - 1 + n, []⟩

/-- A heading marker: `##` and white space. -/
def findHeading : Finder
  | _, '#' :: '#' :: rest => markerHit 2 rest
  | _, _ => none

/-- The text before the first `**`, if that stands on the same line. -/
def untilDelimiter? : Text → Option Text
  | [] => none
  | c :: t =>
    match c, t with
    | '*', '*' :: _ => some []
    | c, t => if c = '\n' then none else (untilDelimiter? t).map (c :: ·)

/-- A bold span: `**`, at least one character, and the next `**` of the line. The characters
between the delimiters stay. -/
def findBold : Finder
  | _, '*' :: '*' :: c :: rest =>
    if c = '\n' then none
    else (untilDelimiter? rest).map fun t => ⟨t.length + 4, c :: t⟩
  | _, _ => none

/-- A bullet at the start of a line: `-` and white space. -/
def findBullet : Finder
  | true, '-' :: rest => markerHit 1 rest
  | _, _ => none

/-- An ordinal at the start of a line: decimal digits, a point and white space. -/
def findOrdinal : Finder
  | true, t =>
    let digits := t.takeWhile Text.isDecimalDigit
    match digits, t.dropWhile Text.isDecimalDigit with
    | _ :: _, '.' :: rest => markerHit (digits.length + 1) rest
    | _, _ => none
  | false, _ => none

/-- The text without heading markers. -/
def withoutHeadings (t : Text) : Text := replaceAll findHeading t

/-- The text without the delimiters of bold spans. -/
def withoutBold (t : Text) : Text := replaceAll findBold t

/-- The text without bullets. -/
def withoutBullets (t : Text) : Text := replaceAll findBullet t

/-- The text without ordinals. -/
def withoutOrdinals (t : Text) : Text := replaceAll findOrdinal t

/-- The plain text of a source. -/
def ofSource (source : Text) : Text :=
  Text.trim (withoutOrdinals (withoutBullets (withoutBold (withoutHeadings source))))

end ServiceCharter.PlainText

namespace ServiceCharter

/-- The document as plain text. -/
def Document.plainText (d : Document) : Text := PlainText.ofSource d.source

end ServiceCharter

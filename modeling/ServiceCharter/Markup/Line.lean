import ServiceCharter.Text.Blank

/-!
# Lines of a document

The markup dialect is read line by line. A line is blank only if it is empty. Any other line starts
as text, and three stages take up the text lines that begin with their marker: `##` for headings,
`-` for bullet items, and digits with a point for numbered items. A marker is followed by white
space and then by some content; a line without either stays text.

A stage looks at text lines only, so a line that has been given a class keeps it.
-/

namespace ServiceCharter.Markup

/-- The marker of a list item. -/
inductive Marker where
  | bullet
  | numbered
deriving DecidableEq, Repr

/-- A line of a document. -/
inductive Line where
  | blank
  | text (t : Text)
  | heading (title : Text)
  | item (marker : Marker) (t : Text)
deriving DecidableEq, Repr

namespace Line

/-- The class of a line before any marker is looked at. -/
def ofText (t : Text) : Line := if t.isEmpty then blank else text t

/-- Whether the line holds text, and nothing but white space. -/
def isBlankText : Line → Bool
  | text t => Text.allBlank t
  | _ => false

end Line

/-- The lines of a source; the empty source has none. -/
def sourceLines (source : Text) : List Line :=
  if source.isEmpty then [] else (Text.lines source).map Line.ofText

/-! ### Markers -/

/-- The content after a marker: white space comes first, and something else follows it. -/
def contentAfter? : Text → Option Text
  | [] => none
  | c :: t =>
    if Text.isBlank c then
      match Text.trimStart t with
      | [] => none
      | content => some content
    else none

/-- The content of a heading line. -/
def headingContent? : Text → Option Text
  | '#' :: '#' :: t => contentAfter? t
  | _ => none

/-- The content of a bullet item. -/
def bulletContent? : Text → Option Text
  | '-' :: t => contentAfter? t
  | _ => none

/-- What follows an ordinal: one or more of the digits from `0` to `9`, and a point. -/
def afterOrdinal? (t : Text) : Option Text :=
  if (t.takeWhile Char.isDigit).isEmpty then none
  else
    match t.dropWhile Char.isDigit with
    | '.' :: rest => some rest
    | _ => none

/-- The content of a numbered item. -/
def numberedContent? (t : Text) : Option Text := (afterOrdinal? t).bind contentAfter?

/-! ### Stages -/

/-- The line, given a new class if it is text for which `classify` has one. -/
def Line.reclassify (classify : Text → Option Line) : Line → Line
  | text t => (classify t).getD (text t)
  | line => line

/-- The lines in which text that starts with `##` is a heading. -/
def withHeadings (lines : List Line) : List Line :=
  lines.map (Line.reclassify fun t => (headingContent? t).map .heading)

/-- The lines in which text that starts with `-` is a bullet item. -/
def withBullets (lines : List Line) : List Line :=
  lines.map (Line.reclassify fun t => (bulletContent? t).map (.item .bullet))

/-- The lines in which text that starts with an ordinal is a numbered item. -/
def withNumbered (lines : List Line) : List Line :=
  lines.map (Line.reclassify fun t => (numberedContent? t).map (.item .numbered))

/-- The classified lines of a source. -/
def classify (source : Text) : List Line :=
  withNumbered (withBullets (withHeadings (sourceLines source)))

end ServiceCharter.Markup

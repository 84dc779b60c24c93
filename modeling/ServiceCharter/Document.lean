import ServiceCharter.FieldValues

/-!
# Documents

A document is a text in the markup dialect, and the single source of everything that is shown or
downloaded. `compile` assembles one from field values: one section after another in the order of
the catalogue, whatever the order of the values, with one empty line between neighbours.
-/

namespace ServiceCharter

/-- A document in the markup dialect. -/
structure Document where
  source : Text
deriving DecidableEq, Repr

namespace Document

/-- The document without content. -/
def empty : Document := ⟨[]⟩

/-- Whether the document has no content. -/
def isEmpty (d : Document) : Bool := d.source.isEmpty

end Document

/-- The section of a field with the given text: the text under the field's heading, or the text
alone if the field is verbatim. -/
def Field.section (f : Field) (text : Text) : Text :=
  if f.isVerbatim then text
  else ['#', '#', ' '] ++ f.title.toList ++ ['\n', '\n'] ++ text

namespace FieldValues

/-- The sections of the fields that have a text, in the order of the catalogue. -/
def sections (values : FieldValues) : List Text :=
  Field.all.filterMap fun f => (values.text? f).map f.section

/-- The document made of the sections, with one empty line between neighbours. -/
def compile (values : FieldValues) : Document :=
  ⟨Text.trim (['\n', '\n'].intercalate values.sections)⟩

end FieldValues

end ServiceCharter

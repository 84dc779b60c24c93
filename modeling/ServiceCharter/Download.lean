import ServiceCharter.Document
import ServiceCharter.PlainText.Marker

/-!
# Downloads

A download is a file that is offered to the user: a name, a media type and bytes. Its text is what
the bytes encode in UTF-8, and empty if they encode none.
-/

namespace ServiceCharter

/-- A named file that is offered to the user. -/
structure Download where
  fileName : String
  mediaType : String
  bytes : ByteArray

namespace Download

/-- The text that the bytes encode in UTF-8; empty if there is none. -/
def text (d : Download) : String := (String.fromUTF8? d.bytes).getD ""

/-- A download with a text as its content. -/
def ofText (fileName mediaType : String) (t : Text) : Download :=
  ⟨fileName, mediaType, (String.ofList t).toUTF8⟩

/-- The media type of documents. -/
def markdownMediaType : String := "text/markdown;charset=utf-8"

/-- The media type of plain text. -/
def plainMediaType : String := "text/plain;charset=utf-8"

/-- A document as a download. -/
def markdown (fileName : String) (d : Document) : Download :=
  ofText fileName markdownMediaType d.source

/-- The plain text of a document as a download. -/
def plain (fileName : String) (d : Document) : Download :=
  ofText fileName plainMediaType d.plainText

end Download

end ServiceCharter

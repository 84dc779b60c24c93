import ServiceCharter.Document
import ServiceCharter.Error

/-!
# Formats

A format is a representation of documents outside the program. It has a name, and it reads
documents, writes them, or both. A format that is given only a name does neither, and refuses
parameters.
-/

namespace ServiceCharter

namespace Format

/-- The error of a format that does not read documents. -/
def readingRefused (name : String) : ServiceError :=
  .unsupported s!"Format '{name}' does not support parsing"

/-- The error of a format that does not write documents. -/
def writingRefused (name : String) : ServiceError :=
  .unsupported s!"Format '{name}' does not support serialization"

/-- The error of a format that takes no parameters. -/
def parametersRefused (name : String) : ServiceError :=
  .unsupported s!"Format '{name}' does not support extra parameters"

end Format

/-- A representation of documents. -/
structure Format where
  name : String
  description : String := ""
  /-- The extensions of its files, without the point. -/
  extensions : List String := []
  mediaType : String := "application/octet-stream"
  /-- Whether it reads documents. -/
  reads : Bool := false
  /-- Whether it writes documents. -/
  writes : Bool := false
  read : Text → Except ServiceError Document := fun _ => .error (Format.readingRefused name)
  write : Document → Except ServiceError Text :=
    fun _ => .error (Format.writingRefused name)
  /-- Writes a document with parameters. -/
  writeWith : Document → Table String → Except ServiceError Text :=
    fun d parameters =>
      if parameters.isEmpty then write d else .error (Format.parametersRefused name)

end ServiceCharter

import ServiceCharter.FileName
import ServiceCharter.Format.Builtin

/-!
# Registries of formats

A registry keeps formats by their names; a format that is added under a taken name replaces the one
before. Before a format is used, the registry checks that it goes in the direction that is asked
for.
-/

namespace ServiceCharter

/-- Formats by name. -/
structure Registry where
  formats : Table Format

namespace Registry

/-- A registry without formats. -/
def empty : Registry := ⟨[]⟩

/-- The registry with a format added, in place of an earlier one of that name. -/
def add (r : Registry) (f : Format) : Registry := ⟨r.formats.insert f.name f⟩

/-- The registry of the formats of the program. -/
def builtin : Registry :=
  (((empty.add .json).add .markdown).add (.html .default)).add .plain

/-- The format with a name. -/
def get (r : Registry) (name : String) : Except ServiceError Format :=
  match r.formats.get? name with
  | some f => .ok f
  | none => .error (.unknownFormat name)

/-- Whether a format has this name. -/
def contains (r : Registry) (name : String) : Bool := (r.formats.get? name).isSome

/-- The names of all formats in ascending order. -/
def names (r : Registry) : List String := r.formats.keys

/-- The name of a format to which the extension of a file belongs. -/
def detect? (r : Registry) (fileName : Text) : Option String :=
  (FileName.extension? fileName).bind fun extension =>
    ((r.formats.map Prod.snd).find? fun f => f.extensions.contains (String.ofList extension)).map
      Format.name

/-- The document that a source is in the named format. -/
def read (r : Registry) (source : Text) (name : String) : Except ServiceError Document :=
  match r.get name with
  | .error e => .error e
  | .ok f => if f.reads then f.read source else .error (Format.readingRefused name)

/-- The document in the named format, written with parameters. -/
def writeWith (r : Registry) (d : Document) (name : String) (parameters : Table String) :
    Except ServiceError Text :=
  match r.get name with
  | .error e => .error e
  | .ok f =>
    if f.writes then f.writeWith d parameters
    else .error (Format.writingRefused name)

/-- The document in the named format. -/
def write (r : Registry) (d : Document) (name : String) : Except ServiceError Text :=
  r.writeWith d name []

end Registry

end ServiceCharter

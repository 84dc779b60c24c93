import ServiceCharter.Text.Basic

/-!
# File names

The extension of a path is what follows the last point of its last component. Empty components and
components `.` do not count. There is no extension if the last component is `..`, if it has no
point, or if its only point is its first character.
-/

namespace ServiceCharter.FileName

/-- The components of a path that name something. -/
def components (path : Text) : List Text :=
  (path.splitOn '/').filter fun c => c != [] && c != ['.']

/-- What stands before the last point, and what stands after it. -/
def cutAtLastPoint? : Text → Option (Text × Text)
  | [] => none
  | c :: t =>
    match cutAtLastPoint? t with
    | some (stem, extension) => some (c :: stem, extension)
    | none => if c = '.' then some ([], t) else none

/-- The extension of a component. -/
def extensionOf? (name : Text) : Option Text :=
  if name = ['.', '.'] then none
  else
    match cutAtLastPoint? name with
    | some (_ :: _, extension) => some extension
    | _ => none

/-- The extension of a path. -/
def extension? (path : Text) : Option Text := (components path).getLast?.bind extensionOf?

end ServiceCharter.FileName

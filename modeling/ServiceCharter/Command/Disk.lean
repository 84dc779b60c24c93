import ServiceCharter.Table
import ServiceCharter.Text.Basic

/-!
# Files

A disk holds files and folders by their paths. A path is followed component by component: every
component but the last has to be a folder. The folders above the working folder exist, and so does
the root, which does not lead to the working folder.

Reading never changes a disk, and a write that fails leaves it as it was, because it answers an
error instead of a disk.
-/

namespace ServiceCharter.Command

/-- Why a file cannot be read or written. -/
inductive FileError where
  | missing
  | isFolder
  | notFolder
  | nameTooLong
  | nulInName
  | notText
  /-- Any other reason that the operating system gives. -/
  | other (reason : String)
deriving DecidableEq, Repr

/-- The wording of an error. -/
def FileError.message : FileError → String
  | missing => "No such file or directory (os error 2)"
  | isFolder => "Is a directory (os error 21)"
  | notFolder => "Not a directory (os error 20)"
  | nameTooLong => "File name too long (os error 36)"
  | nulInName => "file name contained an unexpected NUL byte"
  | notText => "stream did not contain valid UTF-8"
  | other reason => reason

/-- A file or a folder. -/
inductive Item where
  | file (content : ByteArray)
  | folder

/-- The files and folders by their paths, which have no components that could be left out. A path
from the root begins with a slash. In any other, `..` stands only at the start. The root and the
folders above the working folder are not among them. -/
structure Disk where
  items : Table Item

namespace Disk

/-- The disk without files. -/
def empty : Disk := ⟨[]⟩

/-! ### Places -/

/-- The path that components make. -/
def pathOf (components : List Text) : String := String.ofList (['/'].intercalate components)

/-- The component that leads to the folder above. -/
def upward : Text := ['.', '.']

/-- Where a file or a folder is or can be. -/
structure Place where
  /-- Whether the components lead there from the root, and not from the working folder. -/
  fromRoot : Bool
  components : List Text
deriving DecidableEq, Repr

namespace Place

/-- The path of a place. -/
def path (p : Place) : String :=
  if p.fromRoot then pathOf ([] :: p.components) else pathOf p.components

/-- Whether a place is a folder on every disk. -/
def isStanding (p : Place) : Bool :=
  if p.fromRoot then p.components.isEmpty else p.components.all (· == upward)

/-- The folder above; the root is above itself. -/
def parent (p : Place) : Place :=
  if p.isStanding then
    if p.fromRoot then p else { p with components := p.components ++ [upward] }
  else { p with components := p.components.dropLast }

/-- The place that a name has in a folder. -/
def child (p : Place) (name : Text) : Place := { p with components := p.components ++ [name] }

end Place

/-- The item at a place. -/
def item? (d : Disk) (p : Place) : Option Item :=
  if p.isStanding then some .folder else d.items.get? p.path

/-! ### Following paths -/

/-- The greatest number of bytes of a component. -/
def maxName : Nat := 255

/-- The greatest number of bytes of a path. -/
def maxPath : Nat := 4095

/-- The item that has a name in a folder. -/
def entry? (d : Disk) (folder : Place) (name : Text) : Except FileError (Option Item) :=
  if maxName < name.byteCount then .error .nameTooLong else .ok (d.item? (folder.child name))

/-- The folder to which components lead from `here`; each of them must name a folder. -/
def follow (d : Disk) (here : Place) : List Text → Except FileError Place
  | [] => .ok here
  | c :: rest =>
    if c = [] ∨ c = ['.'] then follow d here rest
    else if c = upward then follow d here.parent rest
    else
      match d.entry? here c with
      | .error e => .error e
      | .ok (some .folder) => follow d (here.child c) rest
      | .ok (some (.file _)) => .error .notFolder
      | .ok none => .error .missing

/-- Checks a path before it is followed. -/
def check (path : Text) : Except FileError Unit :=
  if path.contains '\x00' then .error .nulInName
  else if path.isEmpty then .error .missing
  else if maxPath < path.byteCount then .error .nameTooLong
  else .ok ()

/-- Where a path leads if all but its last component are followed. -/
structure Target where
  folder : Place
  name : Text
  /-- Whether slashes stand behind the name. -/
  slash : Bool
deriving DecidableEq, Repr

/-- Whether the name is that of the folder itself or of the folder above. -/
def Target.isWithoutName (t : Target) : Bool := t.name == [] || t.name == ['.'] || t.name == upward

/-- The path without slashes at its end. -/
def withoutSlashes (path : Text) : Text := (path.reverse.dropWhile (· == '/')).reverse

/-- Follows a path up to its last component. -/
def locate (d : Disk) (path : Text) : Except FileError Target :=
  match check path with
  | .error e => .error e
  | .ok () =>
    let bare := withoutSlashes path
    let components := bare.splitOn '/'
    (d.follow ⟨path.head? == some '/', []⟩ components.dropLast).map fun folder =>
      ⟨folder, components.getLast?.getD [], bare != path⟩

/-! ### Reading and writing -/

/-- The content of the file at a path. Slashes behind the path ask for a folder. -/
def read (d : Disk) (path : Text) : Except FileError ByteArray :=
  match d.locate path with
  | .error e => .error e
  | .ok t =>
    if t.isWithoutName then .error .isFolder
    else
      match d.entry? t.folder t.name with
      | .error e => .error e
      | .ok none => .error .missing
      | .ok (some .folder) => .error .isFolder
      | .ok (some (.file content)) => if t.slash then .error .notFolder else .ok content

/-- The disk with a file at a path, in place of an earlier one. A path with slashes behind it is
taken for that of a folder, whether there is one or not. -/
def write (d : Disk) (path : Text) (content : ByteArray) : Except FileError Disk :=
  match d.locate path with
  | .error e => .error e
  | .ok t =>
    if t.isWithoutName || t.slash then .error .isFolder
    else
      match d.entry? t.folder t.name with
      | .error e => .error e
      | .ok (some .folder) => .error .isFolder
      | .ok _ => .ok ⟨d.items.insert (t.folder.child t.name).path (.file content)⟩

/-- The disk with a file and the folders above it. -/
def place (d : Disk) (components : List Text) (content : ByteArray) : Disk :=
  let folders := (List.range components.length).tail.map fun n => pathOf (components.take n)
  let items := folders.foldl (fun items folder => items.insert folder .folder) d.items
  ⟨items.insert (pathOf components) (.file content)⟩

end Disk

end ServiceCharter.Command

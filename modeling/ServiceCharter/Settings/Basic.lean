import ServiceCharter.Html.Page
import ServiceCharter.Settings.Tree

/-!
# Settings

The settings of the program are read from a settings tree. A group of settings is a table, or an
array that gives them in order; settings that the program does not know are ignored.
-/

namespace ServiceCharter

/-- The names of the files to download. -/
structure DownloadSettings where
  markdownFileName : String
  textFileName : String
deriving DecidableEq, Repr

/-- How HTML is written. -/
structure PageSettings where
  standalone : Bool
  title : String
deriving DecidableEq, Repr

/-- The settings of the program. -/
structure Settings where
  downloads : DownloadSettings
  page : PageSettings
  /-- Which messages the program logs. -/
  logFilter : String
deriving DecidableEq, Repr

/-- The options with which HTML is written. -/
def PageSettings.options (s : PageSettings) : Html.Options := ⟨s.standalone, s.title, none⟩

namespace Settings

/-- Why settings cannot be had: the kind of a fault, without the file, the key and the types that it
is about. -/
inductive Fault where
  /-- A required file cannot be read. -/
  | unreadableFile
  /-- A file is not TOML. -/
  | invalidFile
  /-- The key of an override is no key path. -/
  | invalidKey
  /-- A setting has a value that cannot be converted. -/
  | wrongType
  /-- A group of settings is no group, or lacks a setting. -/
  | wrongShape
deriving DecidableEq, Repr

/-! ### Reading a tree -/

/-- Whether the tree can be a group of settings. -/
def isGroup : Tree → Bool
  | .table _ => true
  | .array _ => true
  | _ => false

/-- The setting of a group with a name and a place. -/
def setting? (group : Tree) (name : String) (place : Nat) : Option Tree :=
  match group with
  | .table ms => Table.get? ms name
  | .array vs => vs[place]?
  | _ => none

/-- Converts a setting of a group, if it is there. -/
def convert? {α : Type} (convert : Tree → Except Fault α) (group : Tree) (name : String)
    (place : Nat) : Except Fault (Option α) :=
  match setting? group name place with
  | none => .ok none
  | some v => (convert v).map some

/-- The value as a string. -/
def asString (v : Tree) : Except Fault String :=
  match v.toString? with
  | some s => .ok s
  | none => .error .wrongType

/-- The value as a truth value. -/
def asBool (v : Tree) : Except Fault Bool :=
  match v.toBool? with
  | some b => .ok b
  | none => .error .wrongType

/-- The group made of two settings. All that are there are converted before one is missed. -/
def pair {α β γ : Type} (make : α → β → γ) (first : Except Fault (Option α))
    (second : Except Fault (Option β)) : Except Fault γ :=
  match first with
  | .error f => .error f
  | .ok a =>
    match second with
    | .error f => .error f
    | .ok b =>
      match a, b with
      | some a, some b => .ok (make a b)
      | _, _ => .error .wrongShape

/-- The group made of one setting. -/
def single {α γ : Type} (make : α → γ) (first : Except Fault (Option α)) : Except Fault γ :=
  pair (fun a _ => make a) first (.ok (some ()))

/-- Reads a value that has to be a group. -/
def asGroup {α : Type} (read : Tree → Except Fault α) (v : Tree) : Except Fault α :=
  if isGroup v then read v else .error .wrongShape

/-- The names of the downloads. -/
def readDownloads : Tree → Except Fault DownloadSettings := asGroup fun v =>
  pair .mk (convert? asString v "markdown_file_name" 0) (convert? asString v "text_file_name" 1)

/-- The settings for HTML. -/
def readPage : Tree → Except Fault PageSettings := asGroup fun v =>
  pair .mk (convert? asBool v "standalone" 0) (convert? asString v "title" 1)

/-- The settings for conversions, among which are those for HTML. -/
def readConversions : Tree → Except Fault PageSettings := asGroup fun v =>
  single id (convert? readPage v "html" 0)

/-- The settings for the log. -/
def readLogging : Tree → Except Fault String := asGroup fun v =>
  single id (convert? asString v "filter" 0)

/-- The settings that a tree holds. -/
def ofTree : Tree → Except Fault Settings := asGroup fun v =>
  pair (fun downloads rest => ⟨downloads, rest.1, rest.2⟩)
    (convert? readDownloads v "export" 0)
    (match convert? readConversions v "convert" 1, convert? readLogging v "logging" 2 with
      | .error f, _ => .error f
      | _, .error f => .error f
      | .ok page, .ok filter => .ok (page.bind fun p => filter.map fun f => (p, f)))

end Settings

end ServiceCharter

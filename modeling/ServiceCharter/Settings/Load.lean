import ServiceCharter.Settings.Basic
import ServiceCharter.Settings.KeyPath
import ServiceCharter.Toml.Reader

/-!
# Loading settings

Settings come in layers: the defaults, then files in order, then overrides. A later layer wins over
an earlier one, value by value. The keys at the top of a file are key paths; one that is no key path
is a plain name.

The keys of all overrides are read first, so a fault in one of them is reported before any in a
file.
-/

namespace ServiceCharter.Settings

/-- A settings file. -/
inductive Source where
  /-- A file with its text. -/
  | file (text : Text)
  /-- A file that does not exist, or that is not text. -/
  | unreadable (required : Bool)
deriving DecidableEq, Repr

/-- A value for one place of the settings. -/
structure Override where
  key : Text
  value : Tree
deriving Repr

/-- The settings if nothing else is said. -/
def defaults : Settings where
  downloads := ⟨"descricao_servico.md", "descricao_servico.txt"⟩
  page := ⟨false, Html.Options.defaultTitle⟩
  logFilter := "warn"

/-- The tree of settings. -/
def toTree (s : Settings) : Tree :=
  .table
    [ ("convert", .table
        [ ("html", .table
            [ ("standalone", .bool s.page.standalone),
              ("title", .string s.page.title)])]),
      ("export", .table
        [ ("markdown_file_name", .string s.downloads.markdownFileName),
          ("text_file_name", .string s.downloads.textFileName)]),
      ("logging", .table [("filter", .string s.logFilter)]) ]

/-- The tree with the value of a key at the top of a file stored. -/
def storeTop (root : Tree) (key : String) (v : Tree) : Tree :=
  match KeyPath.parse? key.toList with
  | some p => p.store v root
  | none => root.store key v

/-- The tree with the members of a file stored. -/
def layer (root : Tree) (members : Table Toml.Value) : Tree :=
  members.foldl (fun root e => storeTop root e.1 (.ofToml e.2)) root

/-- The tree with a source stored. -/
def addSource (root : Tree) : Source → Except Fault Tree
  | .file text =>
    match Toml.parse? text with
    | some members => .ok (layer root members)
    | none => .error .invalidFile
  | .unreadable required => if required then .error .unreadableFile else .ok root

/-- The tree with all sources stored in turn. -/
def addSources (root : Tree) : List Source → Except Fault Tree
  | [] => .ok root
  | source :: sources =>
    match addSource root source with
    | .error f => .error f
    | .ok root => addSources root sources

/-- The places and values of overrides. -/
def readOverrides : List Override → Except Fault (List (KeyPath × Tree))
  | [] => .ok []
  | o :: os =>
    match KeyPath.parse? o.key with
    | none => .error .invalidKey
    | some p => (readOverrides os).map fun rest => (p, o.value) :: rest

/-- The tree with overrides stored in turn. -/
def applyOverrides (root : Tree) (overrides : List (KeyPath × Tree)) : Tree :=
  overrides.foldl (fun root o => o.1.store o.2 root) root

/-- The settings that the sources and overrides make over the defaults. -/
def load (sources : List Source) (overrides : List Override) : Except Fault Settings :=
  match readOverrides overrides with
  | .error f => .error f
  | .ok overrides =>
    match addSources defaults.toTree sources with
    | .error f => .error f
    | .ok root => ofTree (applyOverrides root overrides)

end ServiceCharter.Settings

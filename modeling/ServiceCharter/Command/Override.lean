import ServiceCharter.Format.Builtin
import ServiceCharter.Settings.Basic

/-!
# Settings among the extra parameters

Some extra parameters change settings and are taken out of the others; what remains is for the
target format. Two settings have two names each; the first name that is given counts.
-/

namespace ServiceCharter.Command

/-- A truth value in an extra parameter that is none; its lowered text. -/
structure InvalidFlag where
  lowered : String
deriving DecidableEq, Repr

/-- The wording of the error. -/
def InvalidFlag.message (e : InvalidFlag) : String :=
  s!"Invalid boolean value '{e.lowered}' for --extra-standalone"

/-- The value of the first of the keys that is there, and the parameters without it. -/
def takeFirst (parameters : Table String) : List String → Option String × Table String
  | [] => (none, parameters)
  | key :: keys =>
    match parameters.get? key with
    | some value => (some value, parameters.erase key)
    | none => takeFirst parameters keys

/-- The parameter for standalone pages. -/
def standaloneKey : String := "standalone"

/-- The parameter for the title of pages. -/
def titleKey : String := "title"

/-- The parameters for the name of the document to download. -/
def markdownNameKeys : List String := ["markdown-file-name", "md-name"]

/-- The parameters for the name of the plain text to download. -/
def textNameKeys : List String := ["text-file-name", "txt-name"]

/-- The truth value of a parameter, or `other` if it is not given. -/
def takeFlag (raw : Option String) (other : Bool) : Except InvalidFlag Bool :=
  match raw with
  | none => .ok other
  | some raw =>
    match Format.flag? (lowerCase raw) with
    | some b => .ok b
    | none => .error ⟨lowerCase raw⟩

/-- The settings changed as the parameters say, and the parameters that remain. -/
def override (settings : Settings) (parameters : Table String) :
    Except InvalidFlag (Settings × Table String) :=
  let (standalone, parameters) := takeFirst parameters [standaloneKey]
  (takeFlag standalone settings.page.standalone).map fun standalone =>
    let (title, parameters) := takeFirst parameters [titleKey]
    let (markdownName, parameters) := takeFirst parameters markdownNameKeys
    let (textName, parameters) := takeFirst parameters textNameKeys
    let page : PageSettings := ⟨standalone, title.getD settings.page.title⟩
    let downloads : DownloadSettings :=
      ⟨markdownName.getD settings.downloads.markdownFileName,
        textName.getD settings.downloads.textFileName⟩
    (⟨downloads, page, settings.logFilter⟩, parameters)

end ServiceCharter.Command

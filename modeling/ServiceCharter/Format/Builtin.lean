import ServiceCharter.Download
import ServiceCharter.Format.Basic
import ServiceCharter.Html.Page
import ServiceCharter.Reply.Envelope
import ServiceCharter.Text.LowerCase

/-!
# The formats of the program

Replies of the text service are read, HTML and plain text are written, and the markup itself goes
both ways, trimmed when it is read.
-/

namespace ServiceCharter.Format

/-- The replies of the text service. -/
def json : Format where
  name := "json"
  description := "Text-generation service reply (JSON envelope or field mapping)"
  extensions := ["json"]
  mediaType := "application/json"
  reads := true
  read := fun source => (Reply.parse source).bind fun reply =>
    reply.fields?.map FieldValues.compile

/-- The markup dialect. -/
def markdown : Format where
  name := "markdown"
  description := "Compiled service description markup"
  extensions := ["md", "markdown"]
  mediaType := Download.markdownMediaType
  reads := true
  writes := true
  read := fun source => .ok ⟨Text.trim source⟩
  write := fun d => .ok d.source

/-- Plain text. -/
def plain : Format where
  name := "text"
  description := "Plain text with the markup removed"
  extensions := ["txt"]
  mediaType := Download.plainMediaType
  writes := true
  write := fun d => .ok d.plainText

/-! ### HTML -/

/-- A truth value as a parameter gives it, in lower case. -/
def flag? (lowered : String) : Option Bool :=
  if ["true", "1", "yes", "y"].contains lowered then some true
  else if ["false", "0", "no", "n"].contains lowered then some false
  else none

/-- The truth value that a parameter gives, in any case. -/
def htmlFlag (raw : String) : Except ServiceError Bool :=
  let lowered := lowerCase raw
  match flag? lowered with
  | some b => .ok b
  | none => .error (.unsupported s!"Invalid boolean value '{lowered}' for option 'standalone'")

/-- The options with those set that the parameters name; other parameters are ignored. -/
def optionsWith (options : Html.Options) (parameters : Table String) :
    Except ServiceError Html.Options :=
  let standalone :=
    match parameters.get? "standalone" with
    | some raw => htmlFlag raw
    | none => .ok options.standalone
  standalone.map fun standalone =>
    { standalone
      title := (parameters.get? "title").getD options.title
      css := (parameters.get? "css").or options.css }

/-- HTML, written with the given options unless parameters say otherwise. -/
def html (options : Html.Options) : Format where
  name := "html"
  description := "HTML rendering of the compiled document"
  extensions := ["html", "htm"]
  mediaType := "text/html;charset=utf-8"
  writes := true
  write := fun d => .ok (Html.renderDocument options d)
  writeWith := fun d parameters =>
    (optionsWith options parameters).map fun options => Html.renderDocument options d

end ServiceCharter.Format

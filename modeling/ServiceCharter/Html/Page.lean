import ServiceCharter.Document
import ServiceCharter.Html.Fragment
import ServiceCharter.Html.Stylesheet
import ServiceCharter.Markup.Block

/-!
# HTML of a document

A document is written as a fragment, or as a standalone page: the fragment in a complete page with
a title and a stylesheet, to which the caller may add.

In the title, the characters `&`, `<`, `>` and `"` are replaced one kind after the other. The
ampersands come first, so those of the later replacements stay as they are.
-/

namespace ServiceCharter.Html

/-- How a document is written. -/
structure Options where
  /-- Put the fragment into a complete page. -/
  standalone : Bool
  /-- The title of the page. -/
  title : String
  /-- Further rules at the end of the stylesheet. -/
  css : Option String
deriving DecidableEq, Repr

namespace Options

/-- The title of a page that is not given another. -/
def defaultTitle : String := "Descrição do Serviço"

/-- A fragment. -/
def default : Options := ⟨false, defaultTitle, none⟩

/-- A page with a title. -/
def page (title : String) : Options := ⟨true, title, none⟩

end Options

/-- The text with every `c` replaced. -/
def replaceChar (c : Char) (replacement : Text) (t : Text) : Text :=
  t.flatMap fun d => if d = c then replacement else [d]

/-- A title with the characters that mean something in HTML replaced. -/
def escapeTitle (t : Text) : Text :=
  replaceChar '"' ['&', 'q', 'u', 'o', 't', ';']
    (replaceChar '>' ['&', 'g', 't', ';']
      (replaceChar '<' ['&', 'l', 't', ';']
        (replaceChar '&' ['&', 'a', 'm', 'p', ';'] t)))

/-- The page up to its title. -/
def pageStart : String :=
  "<!DOCTYPE html>\n<html lang=\"pt-BR\">\n<head>\n  <meta charset=\"UTF-8\">\n" ++
  "  <meta name=\"viewport\" content=\"width=device-width, initial-scale=1.0\">\n" ++
  "  <meta name=\"generator\" content=\"carta-babel\">\n  <title>"

/-- The page from its title to its stylesheet. -/
def pageStyle : String := "</title>\n  <style>\n"

/-- The page from its stylesheet to the fragment. -/
def pageBody : String :=
  "\n  </style>\n</head>\n<body>\n<main class=\"carta-document\">\n"

/-- The page after the fragment. -/
def pageEnd : String := "\n</main>\n</body>\n</html>"

/-- A complete page around a fragment. -/
def page (options : Options) (body : Text) : Text :=
  pageStart.toList ++ escapeTitle options.title.toList ++ pageStyle.toList ++
    stylesheet.toList ++ ['\n'] ++ (options.css.getD "").toList ++ pageBody.toList ++ body ++
    pageEnd.toList

/-- The HTML of a source as a fragment. -/
def renderFragment (source : Text) : Text := fragment (Markup.displayTree source)

/-- The HTML of a document. -/
def renderDocument (options : Options) (d : Document) : Text :=
  let body := renderFragment d.source
  if options.standalone then page options body else body

end ServiceCharter.Html

import ServiceCharter.Text.Basic

/-!
# HTML tokens

Generated HTML is a sequence of tokens: opening and closing tags without attributes, and runs of
text. `Token.print` writes a token. In text, `&`, `<`, `>` and the no-break space are written as
character references, so no text looks like a tag.
-/

namespace ServiceCharter.Html

/-- An element of the generated HTML. -/
inductive Tag where
  | h2
  | p
  | ul
  | ol
  | li
  | strong
deriving DecidableEq, Repr

/-- The name of an element. -/
def Tag.name : Tag → Text
  | h2 => ['h', '2']
  | p => ['p']
  | ul => ['u', 'l']
  | ol => ['o', 'l']
  | li => ['l', 'i']
  | strong => ['s', 't', 'r', 'o', 'n', 'g']

/-- A piece of generated HTML. -/
inductive Token where
  | opening (tag : Tag)
  | closing (tag : Tag)
  | text (t : Text)
deriving DecidableEq, Repr

/-- A character of a text run. -/
def escapeChar (c : Char) : Text :=
  if c = '&' then ['&', 'a', 'm', 'p', ';']
  else if c = '\u00a0' then ['&', 'n', 'b', 's', 'p', ';']
  else if c = '<' then ['&', 'l', 't', ';']
  else if c = '>' then ['&', 'g', 't', ';']
  else [c]

/-- A text run. -/
def escape (t : Text) : Text := t.flatMap escapeChar

/-- The text of a token. -/
def Token.print : Token → Text
  | opening tag => ['<'] ++ tag.name ++ ['>']
  | closing tag => ['<', '/'] ++ tag.name ++ ['>']
  | text t => escape t

/-- The text of a sequence of tokens. -/
def print (tokens : List Token) : Text := tokens.flatMap Token.print

theorem print_append (ts us : List Token) : print (ts ++ us) = print ts ++ print us := by
  simp [print]

end ServiceCharter.Html

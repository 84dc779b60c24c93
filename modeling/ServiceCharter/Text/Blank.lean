import ServiceCharter.Text.Ranges

/-!
# White space

White space is the Unicode property of that name: 25 characters, among them the line feed, the
no-break space and the ideographic space, but not the zero-width space or the byte order mark.
`trim` takes it off both ends of a text.
-/

namespace ServiceCharter.Text

/-- The code points with the property White_Space. -/
def blankRanges : Ranges :=
   [(0x9, 0xD), (0x20, 0x20), (0x85, 0x85), (0xA0, 0xA0), (0x1680, 0x1680), (0x2000, 0x200A),
    (0x2028, 0x2029), (0x202F, 0x202F), (0x205F, 0x205F), (0x3000, 0x3000)]

/-- Whether `c` is white space. -/
def isBlank (c : Char) : Bool := blankRanges.has c

/-- Whether `c` is a tab or a space, the white space that keys and numbers may have around them. -/
def isTabOrSpace (c : Char) : Bool := c == ' ' || c == '\t'

/-- The text from its first character that is not white space. -/
def trimStart (t : Text) : Text := t.dropWhile isBlank

/-- The text up to its last character that is not white space. -/
def trimEnd (t : Text) : Text := (t.reverse.dropWhile isBlank).reverse

/-- The text without white space at either end. -/
def trim (t : Text) : Text := trimEnd (trimStart t)

/-- Whether the text holds nothing but white space. -/
def allBlank (t : Text) : Bool := t.all isBlank

@[simp] theorem trimStart_nil : trimStart [] = [] := rfl

@[simp] theorem trimEnd_nil : trimEnd [] = [] := rfl

@[simp] theorem trim_nil : trim [] = [] := rfl

example : isBlank '\u200b' = false ∧ isBlank '\ufeff' = false ∧ isBlank '\u00a0' = true := by decide

end ServiceCharter.Text

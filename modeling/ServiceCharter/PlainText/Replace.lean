import ServiceCharter.Text.Basic

/-!
# Replacing markers

`replaceAll` goes through a text from left to right. Where a marker is found, the text that it
keeps is put in its place, and the search goes on behind it; any other character stays. Markers are
looked for in the text as it was, so a marker that a replacement completes is not replaced.
-/

namespace ServiceCharter.PlainText

/-- A marker at the head of a text. -/
structure Hit where
  /-- The number of characters that the marker takes after its first. -/
  more : Nat
  /-- The text that is put in its place. -/
  kept : Text
deriving DecidableEq, Repr

/-- A kind of marker: how one is found at the head of a text. The flag says whether the text begins
a line. -/
abbrev Finder := Bool → Text → Option Hit

/-- The text with every marker replaced, where `skip` characters of the last marker are still to be
passed over. -/
def replaceFrom (find : Finder) : (skip : Nat) → (lineStart : Bool) → Text → Text
  | _, _, [] => []
  | skip + 1, _, c :: t => replaceFrom find skip (c == '\n') t
  | 0, lineStart, c :: t =>
    match find lineStart (c :: t) with
    | some hit => hit.kept ++ replaceFrom find hit.more (c == '\n') t
    | none => c :: replaceFrom find 0 (c == '\n') t

/-- The text with every marker replaced. -/
def replaceAll (find : Finder) (t : Text) : Text := replaceFrom find 0 true t

end ServiceCharter.PlainText

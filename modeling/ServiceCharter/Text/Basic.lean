/-!
# Texts

A text is the list of its characters. Everything the library reads or writes line by line or
character by character is a `Text`; names, keys and messages are strings.

The lines of a text are what stands between its line feeds, so `lines` never gives an empty list,
and joining the lines with line feeds gives the text back.
-/

namespace ServiceCharter

/-- A text, as the list of its characters. -/
abbrev Text := List Char

namespace Text

/-- The lines of a text: what stands between its line feeds. The empty text has one empty line. -/
def lines (t : Text) : List Text := t.splitOn '\n'

/-- Joining the lines with line feeds gives the text back. -/
theorem intercalate_lines (t : Text) : ['\n'].intercalate (lines t) = t :=
  List.intercalate_splitOn '\n'

/-- What follows `mark` at the head of a text. -/
def after? : (mark : Text) → Text → Option Text
  | [], t => some t
  | _ :: _, [] => none
  | m :: mark, c :: t => if m = c then after? mark t else none

theorem after?_eq_some_iff {mark t rest : Text} : after? mark t = some rest ↔ t = mark ++ rest := by
  induction mark generalizing t with
  | nil => simp [after?]
  | cons m mark ih =>
    cases t with
    | nil => simp [after?]
    | cons c t =>
      unfold after?
      split
      · next h => subst h; simp [ih]
      · next h => simp [Ne.symm h]

/-- The number of bytes of the text in UTF-8. -/
def byteCount (t : Text) : Nat := t.foldr (fun c n => c.utf8Size + n) 0

end Text

end ServiceCharter

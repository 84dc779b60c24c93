import ServiceCharter.Text.LowerCase.Tables

/-!
# Lower case

The lower-case form of a text under the full mapping of Unicode. Three rules go beyond a table of
characters: capital I with a dot becomes two characters, and a capital sigma becomes a final sigma
at the end of a word and a plain one elsewhere.
-/

namespace ServiceCharter

namespace Text

namespace LowerCase

/-- The lower-case form of a single character that has a single one. -/
def simple (c : Char) : Char :=
  let n := c.toNat
  match shifts.find? fun (first, last, step, _) =>
      first ≤ n && n ≤ last && (n - first) % step == 0 with
  | some (_, _, _, shift) => Char.ofNat ((n : Int) + shift).toNat
  | none => c

/-- Whether the first character that is not ignorable has case. -/
def casedAhead (t : Text) : Bool :=
  match t.dropWhile ignorableRanges.has with
  | [] => false
  | c :: _ => casedRanges.has c

/-- The lower-case form of `c` between the text `before`, read backwards, and the text `after`. -/
def inContext (before : Text) (c : Char) (after : Text) : Text :=
  if c = 'İ' then ['i', '\u0307']
  else if c = 'Σ' then
    if casedAhead before && !casedAhead after then ['ς'] else ['σ']
  else [simple c]

/-- The lower-case form of a text that follows `before`, read backwards. -/
def after (before : Text) : Text → Text
  | [] => []
  | c :: t => inContext before c t ++ after (c :: before) t

end LowerCase

/-- The lower-case form of a text. -/
def toLower (t : Text) : Text := LowerCase.after [] t

end Text

/-- The lower-case form of a string. -/
def lowerCase (s : String) : String := String.ofList (Text.toLower s.toList)

end ServiceCharter

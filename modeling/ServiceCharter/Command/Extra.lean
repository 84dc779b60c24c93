import ServiceCharter.Table
import ServiceCharter.Text.Basic

/-!
# Extra parameters

Before the words of a command line are matched, extra parameters are taken out of them. A word that
begins with `--extra-` or `--extras-` names one, and the next word is its value unless that begins
with a hyphen; a parameter without a value is `true`. Of two values for one parameter the last wins.
-/

namespace ServiceCharter.Command

/-- The parameter that a word names. -/
def extraKey? (word : String) : Option String :=
  let key? (mark : String) : Option String :=
    (Text.after? mark.toList word.toList).map String.ofList
  (key? "--extra-").or (key? "--extras-")

/-- Whether a word begins with a hyphen. -/
def isDashed (word : String) : Bool := word.toList.head? == some '-'

/-- The words without extra parameters, and the parameters added to those already found. -/
def takeExtras (found : Table String) : List String → List String × Table String
  | [] => ([], found)
  | [w] =>
    match extraKey? w with
    | none => ([w], found)
    | some key => ([], found.insert key "true")
  | w :: v :: words =>
    match extraKey? w with
    | none =>
      let (rest, found) := takeExtras found (v :: words)
      (w :: rest, found)
    | some key =>
      if isDashed v then takeExtras (found.insert key "true") (v :: words)
      else takeExtras (found.insert key v) words

/-- The words without extra parameters, and the parameters. -/
def splitExtras (words : List String) : List String × Table String := takeExtras [] words

end ServiceCharter.Command

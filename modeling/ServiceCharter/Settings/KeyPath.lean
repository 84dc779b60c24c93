import ServiceCharter.Settings.Tree
import ServiceCharter.Text.Blank

/-!
# Key paths

A key path leads to a place in a settings tree: a name, followed by names behind points and by
numbers in brackets. A name has letters, digits, blanks, `_` and `-`; a number may be negative and
may have blanks around it, and a negative number counts from the end.
-/

namespace ServiceCharter

/-- A step of a key path. -/
inductive KeyStep where
  | member (name : String)
  | item (index : Int)
deriving DecidableEq, Repr

/-- A way from the root of a settings tree: the name of a member of the root, and further steps. -/
structure KeyPath where
  root : String
  steps : List KeyStep
deriving DecidableEq, Repr

namespace KeyPath

/-! ### Reading -/

/-- Whether `c` may stand in a name. -/
def isNameChar (c : Char) : Bool := c.isAlphanum || c == '_' || c == '-' || c == ' '

/-- A name at the head of the text, in lower case. -/
def readName? (t : Text) : Option (String × Text) :=
  let name := t.takeWhile isNameChar
  if name.isEmpty then none
  else some (String.ofList (name.map Char.toLower), t.dropWhile isNameChar)

/-- The integer that a sign and digits write, if it has at most 64 bits. -/
def index? (negative : Bool) (ds : Text) : Option Int :=
  let n := Nat.ofDigitChars 10 ds 0
  if ds.isEmpty then none
  else if negative then if n ≤ 1 <<< 63 then some (-(n : Int)) else none
  else if n < 1 <<< 63 then some n else none

/-- The integer that the digits at the head of the text write. -/
def readDigits? (negative : Bool) (t : Text) : Option (Int × Text) :=
  (index? negative (t.takeWhile Char.isDigit)).map fun i => (i, t.dropWhile Char.isDigit)

/-- An integer at the head of the text. -/
def readIndex? (t : Text) : Option (Int × Text) :=
  match t with
  | '-' :: r => readDigits? true r
  | t => readDigits? false t

/-- A step at the head of the text. -/
def readStep? (t : Text) : Option (KeyStep × Text) :=
  match t with
  | '.' :: r => (readName? r).map fun (name, rest) => (.member name, rest)
  | '[' :: r =>
    (readIndex? (r.dropWhile Text.isTabOrSpace)).bind fun (i, rest) =>
      match rest.dropWhile Text.isTabOrSpace with
      | ']' :: rest => some (.item i, rest)
      | _ => none
  | _ => none

/-- The steps that the whole text is; `fuel` bounds their number. -/
def readSteps? : (fuel : Nat) → Text → Option (List KeyStep)
  | _, [] => some []
  | 0, _ => none
  | fuel + 1, t =>
    (readStep? t).bind fun (step, rest) => (readSteps? fuel rest).map fun steps => step :: steps

/-- The key path that the whole text is. -/
def parse? (t : Text) : Option KeyPath :=
  (readName? t).bind fun (root, rest) =>
    (readSteps? rest.length rest).map fun steps => ⟨root, steps⟩

/-! ### Storing -/

/-- The items with `change` applied to the one at an index; items that do not exist are made. -/
def changeItem (change : Tree → Tree) (index : Int) (items : List Tree) : List Tree :=
  let place := if index < 0 then items.length - index.natAbs else index.toNat
  -- An index beyond the end is reached over new items.
  let padded := items ++ List.replicate (place + 1 - items.length) Tree.nothing
  padded.modify place change

/-- The tree with a value stored where the steps behind a member lead. What is on the way and does
not fit is replaced. -/
def storeSteps (v : Tree) (name : String) : List KeyStep → Tree → Tree
  | [], t => t.store name v
  | .member next :: steps, t =>
    let child := (t.members.get? name).getD .nothing
    .table (t.members.insert name (storeSteps v next steps child))
  | .item index :: steps, t =>
    let child := (t.members.get? name).getD .nothing
    .table (t.members.insert name (storeItems v index steps child))
where
  /-- The tree with a value stored where the steps behind an item lead. -/
  storeItems (v : Tree) (index : Int) : List KeyStep → Tree → Tree
    | [], t => .array (changeItem (fun _ => v) index t.items)
    | .member next :: steps, t =>
      .array (changeItem (storeSteps v next steps) index t.items)
    | .item next :: steps, t =>
      .array (changeItem (storeItems v next steps) index t.items)

/-- The tree with a value stored at the end of the path. -/
def store (p : KeyPath) (v : Tree) (root : Tree) : Tree := storeSteps v p.root p.steps root

end KeyPath

end ServiceCharter

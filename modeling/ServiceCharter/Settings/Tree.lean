import ServiceCharter.Decimal.Layout
import ServiceCharter.Text.LowerCase
import ServiceCharter.Toml.Value

/-!
# Settings trees

Settings are gathered as a tree of values before they are read as settings of the program. Wherever
a value is stored, its key is lowered, so keys differ only by more than their case.
-/

namespace ServiceCharter

/-- A value of a settings file or an override. -/
inductive Tree where
  | nothing
  | bool (b : Bool)
  | integer (n : Int)
  /-- A binary64 number, by its bits. -/
  | float (bits : UInt64)
  | string (s : String)
  | array (items : List Tree)
  /-- A table; its members are sorted and without repeated keys. -/
  | table (members : List (String × Tree))
deriving Repr, Inhabited

namespace Tree

/-- The members of a table; any other value has none. -/
def members : Tree → Table Tree
  | table ms => ms
  | _ => []

/-- The items of an array; any other value has none. -/
def items : Tree → List Tree
  | array vs => vs
  | _ => []

mutual

/-- The tree that a TOML value is; dates and times are strings. -/
def ofToml : Toml.Value → Tree
  | .boolean b => .bool b
  | .integer n => .integer n
  | .float bits => .float bits
  | .string s => .string s
  | .moment m => .string (String.ofList m.toText)
  | .array vs => .array (ofTomlItems vs)
  | .table ms => .table (ofTomlMembers ms)

/-- The trees that the items of an array are. -/
def ofTomlItems : List Toml.Value → List Tree
  | [] => []
  | v :: vs => ofToml v :: ofTomlItems vs

/-- The trees that the members of a table are. -/
def ofTomlMembers : List (String × Toml.Value) → List (String × Tree)
  | [] => []
  | (key, v) :: ms => (key, ofToml v) :: ofTomlMembers ms

end

/-! ### Storing -/

mutual

/-- The tree with a value stored under a key. What is no table becomes one. A table is merged key by
key into what is there, and any other value replaces it. -/
def store (root : Tree) (key : String) : Tree → Tree
  | table ms =>
    let target := (root.members.get? (lowerCase key)).getD (.table [])
    .table (root.members.insert (lowerCase key) (storeAll target ms))
  | v => .table (root.members.insert (lowerCase key) v)

/-- The tree with all members of a table stored in turn. -/
def storeAll (root : Tree) : List (String × Tree) → Tree
  | [] => root
  | (key, v) :: ms => storeAll (store root key v) ms

end

/-! ### Conversions -/

/-- Numbers as strings: without a point if they are whole, and never with an exponent. -/
def numberLayout : Decimal.Layout where
  plainFrom := none
  plainBelow := none
  pointZero := false
  tie := .up

/-- Whether the bits are those of a zero. -/
def isZero (bits : UInt64) : Bool := bits <<< 1 == 0

/-- The truth value that a lowered string stands for. -/
def flag? (s : String) : Option Bool :=
  if ["1", "true", "on", "yes"].contains s then some true
  else if ["0", "false", "off", "no"].contains s then some false
  else none

/-- The value as a truth value: a number is true unless it is zero, and a string by its wording. -/
def toBool? : Tree → Option Bool
  | bool b => some b
  | integer n => some (n != 0)
  | float bits => some (!isZero bits)
  | string s => flag? (lowerCase s)
  | _ => none

/-- The value as a string. -/
def toString? : Tree → Option String
  | string s => some s
  | bool b => some (if b then "true" else "false")
  | integer n => some (toString n)
  | float bits => some (numberLayout.write bits)
  | _ => none

end Tree

end ServiceCharter

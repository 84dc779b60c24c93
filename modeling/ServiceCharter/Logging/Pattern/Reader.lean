import ServiceCharter.Logging.Pattern.Piece
import ServiceCharter.Text.Alphanumeric
import ServiceCharter.Text.DecimalDigit

/-!
# Reading patterns

Whether a text is a pattern is found out in one pass, which keeps what is open. Groups may be
nameless or have names, each its own, and flags hold up to the end of the group in which they stand.

There are no counted repetitions, no references to groups and nothing that looks ahead or back. A
pattern with a word boundary of Unicode can be read, but it cannot be matched with.
-/

namespace ServiceCharter.Logging.Pattern

/-- Why a text is no pattern to match with. -/
inductive Fault where
  | malformed
  | wordBoundary
deriving DecidableEq, Repr

/-! ### Flags and names -/

/-- What the flags say about one of them, which was `old` before. -/
def flagOf (flags : Text) (flag : Char) (old : Bool) : Bool :=
  if flag ∈ flags.takeWhile (· != '-') then true else if flag ∈ flags then false else old

/-- The mode in which flags change a mode. -/
def Mode.change (m : Mode) (flags : Text) : Mode :=
  ⟨flagOf flags 'u' m.unicode, flagOf flags 'x' m.spaced⟩

/-- Whether the characters are flags, none of them twice; those behind a hyphen are turned off. -/
def areFlags (flags : Text) : Bool :=
  flags.all ("imsUuRx-".toList.contains ·) && decide flags.Nodup && flags.getLast? != some '-'

/-- Whether the text can be the name of a group. -/
def isGroupName : Text → Bool
  | [] => false
  | c :: t =>
    (c == '_' || (Text.isAlphanumeric c && !Text.isDecimalDigit c)) &&
      t.all fun c => Text.isAlphanumeric c || "_.[]".toList.contains c

/-! ### Reading -/

/-- What is known behind a part of a pattern. -/
structure State where
  mode : Mode
  /-- The modes to go back to at the ends of the groups that are open, innermost first. -/
  outer : List Mode
  /-- The names of the groups. -/
  names : List Text
  /-- Whether there is something to repeat. -/
  repeatable : Bool
  /-- Whether there is a word boundary of Unicode. -/
  boundary : Bool
deriving DecidableEq, Repr

namespace State

/-- The state before a pattern. -/
def start : State := ⟨⟨true, false⟩, [], [], false, false⟩

/-- The state in a new group. -/
def enter (s : State) (inner : Mode) : State :=
  { s with mode := inner, outer := s.mode :: s.outer, repeatable := false }

/-- The state behind something that can be repeated. -/
def behind (s : State) : State := { s with repeatable := true }

end State

/-- Reads the name of a group. -/
def readName? (s : State) (t : Text) : Option (State × Text) :=
  let name := t.takeWhile (· != '>')
  match t.dropWhile (· != '>') with
  | _ :: rest =>
    if isGroupName name ∧ name ∉ s.names then
      some ({ s.enter s.mode with names := name :: s.names }, rest)
    else none
  | [] => none

/-- Reads flags, which are for a group or for what follows. -/
def readFlags? (s : State) (t : Text) : Option (State × Text) :=
  let isFlag (c : Char) : Bool := c != ':' && c != ')'
  let flags := t.takeWhile isFlag
  let mode := s.mode.change flags
  if areFlags flags then
    match t.dropWhile isFlag with
    | ':' :: rest => some (s.enter mode, rest)
    | ')' :: rest =>
      if flags.isEmpty then none else some ({ s with mode, repeatable := false }, rest)
    | _ => none
  else none

/-- Reads the start of a group, whose bracket is left out. -/
def readGroup? (s : State) (t : Text) : Option (State × Text) :=
  match s.mode.skip t with
  | '?' :: 'P' :: '<' :: t => readName? s t
  | '?' :: '<' :: t => readName? s t
  | '?' :: t => readFlags? s t
  | t => some (s.enter s.mode, t)

/-- The state behind an escape. -/
def State.escaped (s : State) (e : Escape) : State :=
  { s.behind with boundary := s.boundary || (s.mode.unicode && e == .wordBoundary) }

/-- Reads one piece of a pattern. -/
def step? (s : State) : Text → Option (State × Text)
  | [] => none
  | '(' :: t => readGroup? s t
  | ')' :: t =>
    match s.outer with
    | [] => none
    | mode :: outer => some ({ s.behind with mode, outer }, t)
  | '|' :: t => some ({ s with repeatable := false }, t)
  | '[' :: t => (readClass? s.mode t).map fun t => (s.behind, t)
  | '\\' :: t => (readEscape? s.mode t).map fun (e, t) => (s.escaped e, t)
  | '\x7b' :: _ => none
  | c :: t =>
    if c ∈ ['*', '+', '?'] then if s.repeatable then some (s, t) else none
    else if c = '.' ∧ ¬s.mode.unicode then none
    else some (s.behind, t)

/-- Reads a pattern to its end; `fuel` bounds the number of its pieces. -/
def readAll? : (fuel : Nat) → State → Text → Option State
  | fuel, s, t =>
    match s.mode.skip t with
    | [] => if s.outer.isEmpty then some s else none
    | c :: t =>
      match fuel with
      | 0 => none
      | fuel + 1 => (step? s (c :: t)).bind fun (s, t) => readAll? fuel s t

/-- Why the text is no pattern to match with. -/
def fault? (t : Text) : Option Fault :=
  match readAll? t.length .start t with
  | none => some .malformed
  | some s => if s.boundary then some .wordBoundary else none

example : fault? "a(b|[c-e]+)*".toList = none := by decide

example : fault? "*a".toList = some .malformed := by decide

end ServiceCharter.Logging.Pattern

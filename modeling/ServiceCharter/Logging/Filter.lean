import ServiceCharter.Logging.Pattern.Reader

/-!
# Log filters

A filter says which messages are logged: directives between commas, each a level, a target, or a
target with a level behind `=`. A span may stand in brackets behind the target, with a field in
braces, whose value is a number, a truth value or a pattern.

What is logged is not part of the answers of the program, but a directive that makes no sense is
reported and ignored. Its parts are taken from where they would be if no white space stood before
the directive, so a level is never found in a directive with white space around it.
-/

namespace ServiceCharter.Logging

/-- Why a directive is ignored. -/
inductive Fault where
  | malformed
  | level
  | pattern (fault : Pattern.Fault)
deriving DecidableEq, Repr

/-- The wording of a fault. -/
def Fault.message : Fault → String
  | malformed => "invalid filter directive"
  | level =>
    "error parsing level filter: expected one of \"off\", \"error\", \"warn\", \"info\", " ++
      "\"debug\", \"trace\", or a number 0-5"
  | pattern .malformed => "invalid field filter: error building NFA"
  | pattern .wordBoundary =>
    "invalid field filter: unsupported regex feature for DFAs: cannot build DFAs for regexes " ++
      "with Unicode word boundaries; switch to ASCII word boundaries, or heuristically enable " ++
      "Unicode word boundaries or use a different regex engine"

/-! ### Levels and values -/

/-- The names of the levels, from the fewest messages to the most. -/
def levelNames : List String := ["off", "error", "warn", "info", "debug", "trace"]

/-- Whether the text is the name of a level, in any case, or its number. -/
def isLevel (t : Text) : Bool :=
  let digits := if t.head? = some '+' then t.tail else t
  let isNumber :=
    !digits.isEmpty && digits.all Char.isDigit && Nat.ofDigitChars 10 digits 0 < levelNames.length
  isNumber || levelNames.contains (String.ofList (t.map Char.toLower))

/-- Whether the text is the exponent of a number, or empty. -/
def isExponent : Text → Bool
  | [] => true
  | c :: t =>
    let digits := if t.head? = some '+' ∨ t.head? = some '-' then t.tail else t
    (c == 'e' || c == 'E') && !digits.isEmpty && digits.all Char.isDigit

/-- Whether the text is a number without a sign. -/
def isUnsigned (t : Text) : Bool :=
  let rest := t.dropWhile Char.isDigit
  let fraction := if rest.head? = some '.' then rest.tail else []
  let behind := if rest.head? = some '.' then fraction.dropWhile Char.isDigit else rest
  let hasDigit := (t.takeWhile Char.isDigit ++ fraction.takeWhile Char.isDigit) != []
  (hasDigit && isExponent behind) ||
    ["inf", "infinity", "nan"].contains (String.ofList (t.map Char.toLower))

/-- Why the text is no value of a field. All truth values and all numbers without `+` before them
are patterns. -/
def valueFault? (t : Text) : Option Fault :=
  if t.head? = some '+' ∧ isUnsigned t.tail then none else (Pattern.fault? t).map .pattern

/-! ### Directives -/

/-- A directive as it stands between commas, and without white space around it. -/
structure Directive where
  piece : Text
  trimmed : Text
deriving DecidableEq, Repr

namespace Directive

/-- What the piece holds from where `rest` begins at the end of the trimmed directive. -/
def held (d : Directive) (rest : Text) : Text := d.piece.drop (d.trimmed.length - rest.length)

/-- Why `level`, which ends a directive, is no level. -/
def levelFault? (d : Directive) (level : Text) : Option Fault :=
  let level := d.held level
  if level.isEmpty || isLevel level then none else some .level

/-- The fault behind a span. -/
def faultBehindSpan? (d : Directive) : Text → Option Fault
  | [] => none
  | '=' :: level => d.levelFault? level
  | _ => some .malformed

/-- The fault of a field, which is a name or a name with a value. -/
def fieldFault? (field : Text) : Option Fault :=
  match field.splitOn '=' with
  | _ :: value :: _ => valueFault? value
  | _ => none

/-- The fault behind a brace that opens. -/
def faultInBraces? (d : Directive) (t : Text) : Option Fault :=
  let field := t.takeWhile (· != '\x7d')
  match t.dropWhile (· != '\x7d') with
  | [] => some .malformed
  | _ :: rest =>
    if field.isEmpty then some .malformed
    else
      (fieldFault? ((d.held t).take field.length)).or <|
        match rest with
        | ']' :: rest => d.faultBehindSpan? rest
        | _ => some .malformed

/-- The fault behind a bracket that opens. -/
def faultInSpan? (d : Directive) (t : Text) : Option Fault :=
  match t.dropWhile fun c => c != ']' && c != '\x7b' with
  | ']' :: rest => d.faultBehindSpan? rest
  | _ :: rest => d.faultInBraces? rest
  | [] => some .malformed

/-- The fault behind the first character of a level or a target. -/
def faultInTarget? (d : Directive) (t : Text) : Option Fault :=
  match t.dropWhile fun c => c != '=' && c != '[' with
  | '=' :: level => d.levelFault? level
  | _ :: rest => d.faultInSpan? rest
  | [] => none

/-- Whether a directive can begin with `c`, unless it begins with a span. -/
def isStart (c : Char) : Bool := c == '-' || c == ':' || c == '_' || Text.isAlphanumeric c

/-- Why a directive is ignored. -/
def fault? (d : Directive) : Option Fault :=
  match d.trimmed with
  | [] => some .malformed
  | '[' :: t => d.faultInSpan? t
  | c :: t => if isStart c then d.faultInTarget? t else some .malformed

end Directive

/-! ### Filters -/

/-- The line that reports what stands between commas, if it is no directive. -/
def warning? (piece : Text) : Option Text :=
  (Directive.mk piece (Text.trim piece)).fault?.map fun f =>
    "ignoring ".toList ++ ['\x60'] ++ piece ++ ['\x60', ':', ' '] ++ f.message.toList

/-- The lines that report the faults of a filter. -/
def warnings (filter : Text) : List Text :=
  ((filter.splitOn ',').filter (!·.isEmpty)).filterMap warning?

end ServiceCharter.Logging

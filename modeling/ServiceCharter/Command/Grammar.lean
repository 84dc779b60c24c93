import ServiceCharter.Command.Extra

/-!
# The command line

A command line has options at two levels: before the name of a command, and behind it. `--config`
and `--list-formats` are known at both. `matchWords` reads the words behind the name of the program
as a `Matches`, or reports what is wrong with them.

The value of an option is the next word, unless that is an option itself, or stands behind `=` or,
for an option of one letter, directly behind the letter. Behind `--` there are no options. An option
whose value is a word of its own is settled only when the next thing is met or the words end: that
it has no value, or was there before, is reported then.

Of what is wrong, the kind is modelled, on which the exit code of a run depends and whether the
default command is tried. The texts are not: those in which the commands and options are described,
and those of the errors, with the words they are about and what to write instead. Nothing else
depends on them. `UsageError.message` has a short text of this library for each kind in their place.
-/

namespace ServiceCharter.Command

/-! ### Names -/

/-- A command. -/
inductive Name where
  | convert
  | export
  | sections
deriving DecidableEq, Repr

/-- The name of a command on the command line. -/
def Name.word : Name → String
  | .convert => "convert"
  | .export => "export"
  | .sections => "sections"

/-- The command with a name. -/
def Name.ofWord? (word : String) : Option Name :=
  [Name.convert, Name.export, Name.sections].find? fun n => n.word == word

/-- The word that asks for help. -/
def helpWord : String := "help"

/-- Whether a word is the name of a command or asks for help. -/
def isCommandWord (word : String) : Bool := (Name.ofWord? word).isSome || word == helpWord

/-- What can be given on the command line. -/
inductive Argument where
  | input
  | source
  | target
  | output
  | folder
  | config
  | listFormats
  | help
  | version
deriving DecidableEq, Repr

/-- Whether an option takes a value. -/
def Argument.takesValue : Argument → Bool
  | .listFormats => false
  | .help => false
  | .version => false
  | _ => true

/-- A part of the command line: before the name of a command, or behind it. -/
inductive Level where
  | outer
  | inner (name : Name)
deriving DecidableEq, Repr

/-- The option with a long name. -/
def Level.long? (level : Level) (name : String) : Option Argument :=
  match level, name with
  | _, "config" => some .config
  | _, "list-formats" => some .listFormats
  | _, "help" => some .help
  | .outer, "version" => some .version
  | .inner .convert, "from" => some .source
  | .inner .convert, "to" => some .target
  | .inner .convert, "output" => some .output
  | .inner .export, "dir" => some .folder
  | _, _ => none

/-- The option with a letter. -/
def Level.short? (level : Level) (letter : Char) : Option Argument :=
  match level, letter with
  | _, 'h' => some .help
  | .outer, 'V' => some .version
  | .inner .convert, 'o' => some .output
  | .inner .export, 'd' => some .folder
  | _, _ => none

/-- What the first word that is no option stands for. -/
def Level.positional? : Level → Option Argument
  | .inner .convert => some .input
  | .inner .export => some .input
  | _ => none

/-! ### Faults -/

/-- Why a command line is not carried out; asking for help or for the version is among the
reasons. -/
inductive UsageError where
  | help
  | helpOnMissing
  | version
  | invalidCommand
  | invalidValue
  | missingArgument
  | conflict
  | tooManyValues
  | unknownArgument
deriving DecidableEq, Repr

/-- A short text for an error, in place of its full text. -/
def UsageError.message : UsageError → String
  | .help => "help requested"
  | .helpOnMissing => "no command given"
  | .version => "version requested"
  | .invalidCommand => "unrecognized command"
  | .invalidValue => "a value is required"
  | .missingArgument => "a required argument is missing"
  | .conflict => "an argument was given twice"
  | .tooManyValues => "unexpected value"
  | .unknownArgument => "unexpected argument"

/-! ### Reading a level -/

/-- What has been read at a level. -/
structure Progress where
  /-- The arguments with their values; an option without value has the empty one. -/
  found : List (Argument × String)
  /-- An argument that is not settled, with its value if that has been met. -/
  waiting : Option (Argument × Option String)
  /-- Whether the positional argument has been met. -/
  filled : Bool
deriving DecidableEq, Repr

namespace Progress

/-- Nothing has been read. -/
def start : Progress := ⟨[], none, false⟩

/-- The value of an argument. -/
def get? (p : Progress) (a : Argument) : Option String := p.found.lookup a

/-- Adds an argument, which must be new. -/
def add (p : Progress) (a : Argument) (value : String) : Except UsageError Progress :=
  if (p.get? a).isSome then .error .conflict else .ok { p with found := p.found ++ [(a, value)] }

/-- Settles the waiting argument. -/
def settle (p : Progress) : Except UsageError Progress :=
  match p.waiting with
  | none => .ok p
  | some (_, none) => .error .invalidValue
  | some (a, some value) => { p with waiting := none }.add a value

/-- Whether the next word is the value of an option, unless it is an option itself. -/
def wantsValue (p : Progress) : Bool :=
  match p.waiting with
  | some (_, none) => true
  | _ => false

/-- Takes an option, with a value if that is attached to it. -/
def takeOption (p : Progress) (a : Argument) (attached : Option String) :
    Except UsageError Progress :=
  if a.takesValue then
    match attached with
    | some value => p.settle.bind fun p => p.add a value
    | none => p.settle.map fun p => { p with waiting := some (a, none) }
  else
    match attached with
    | some _ => .error .tooManyValues
    | none =>
      p.settle.bind fun p =>
        match a with
        | .help => .error .help
        | .version => .error .version
        | a => p.add a ""

/-- Takes the value that the waiting option wants. -/
def takeValue (p : Progress) (value : String) : Progress :=
  match p.waiting with
  | some (a, none) => { p with waiting := some (a, some value) }
  | _ => p

/-- Takes a word that is neither an option nor the value of one. -/
def takePositional (p : Progress) (level : Level) (word : String) : Except UsageError Progress :=
  match level.positional? with
  | some a =>
    if p.filled then .error .unknownArgument
    else p.settle.map fun p => ⟨p.found, some (a, some word), true⟩
  | none => .error .unknownArgument

end Progress

/-- What a word can be by its form. -/
inductive Form where
  /-- The mark behind which there are no options. -/
  | mark
  | long (name : String) (attached : Option String)
  | short (letters : List Char)
  | plain
deriving DecidableEq, Repr

/-- The form of a word. -/
def Form.ofWord (word : String) : Form :=
  match word.toList with
  | ['-', '-'] => .mark
  | '-' :: '-' :: t =>
    match t.dropWhile (· != '=') with
    | [] => .long (String.ofList t) none
    | _ :: value => .long (String.ofList (t.takeWhile (· != '='))) (some (String.ofList value))
  | ['-'] => .plain
  | '-' :: t => .short t
  | _ => .plain

/-- Takes options of one letter that stand in one word. What follows an option with a value is the
value. -/
def takeLetters (level : Level) (p : Progress) : List Char → Except UsageError Progress
  | [] => .ok p
  | c :: t =>
    match level.short? c with
    | none => .error .unknownArgument
    | some a =>
      if a.takesValue then
        match t with
        | [] => p.takeOption a none
        | '=' :: value => p.takeOption a (some (String.ofList value))
        | value => p.takeOption a (some (String.ofList value))
      else (p.takeOption a none).bind fun p => takeLetters level p t

/-- Takes a word that may be an option. -/
def takeWord (level : Level) (p : Progress) (word : String) : Except UsageError Progress :=
  match Form.ofWord word with
  | .long name attached =>
    match level.long? name with
    | some a => p.takeOption a attached
    | none => .error .unknownArgument
  | .short letters => takeLetters level p letters
  | _ => if p.wantsValue then .ok (p.takeValue word) else p.takePositional level word

/-- Takes the words behind the mark `--`. -/
def takeTrailing (level : Level) : Progress → List String → Except UsageError Progress
  | p, [] => .ok p
  | p, word :: words => (p.takePositional level word).bind fun p => takeTrailing level p words

/-- Takes all words of the inner level. -/
def takeInner (name : Name) : Progress → List String → Except UsageError Progress
  | p, [] => .ok p
  | p, word :: words =>
    if Form.ofWord word = .mark then takeTrailing (.inner name) p words
    else (takeWord (.inner name) p word).bind fun p => takeInner name p words

/-! ### Commands -/

/-- What is asked for, with the values of the arguments. -/
inductive Request where
  | convert (input : String) (source : Option String) (target : String) (output : Option String)
  | export (input folder : String)
  | sections
deriving DecidableEq, Repr

/-- The folder of the downloads unless another is given. -/
def defaultFolder : String := "."

/-- The request that the arguments of a command make. -/
def Request.ofProgress (name : Name) (p : Progress) : Except UsageError Request :=
  match name with
  | .convert =>
    match p.get? .input, p.get? .target with
    | some input, some target => .ok (.convert input (p.get? .source) target (p.get? .output))
    | _, _ => .error .missingArgument
  | .export =>
    match p.get? .input with
    | some input => .ok (.export input ((p.get? .folder).getD defaultFolder))
    | none => .error .missingArgument
  | .sections => .ok .sections

/-- A command line that can be carried out. -/
structure Matches where
  request : Option Request
  listFormats : Bool
  config : Option String
deriving DecidableEq, Repr

/-- The words behind the name of a command. -/
def matchInner (name : Name) (words : List String) : Except UsageError (Request × Progress) :=
  (takeInner name .start words).bind fun p =>
    p.settle.bind fun p => (Request.ofProgress name p).map fun request => (request, p)

/-- The words behind the request for help: the name of a command at most. -/
def matchHelp : List String → UsageError
  | [] => .help
  | [word] => if isCommandWord word then .help else .invalidCommand
  | _ => .invalidCommand

/-- What the outer level is when its words end: without a command, some option has to be given. -/
def finishOuter (p : Progress) (inner : Option (Request × Progress)) : Except UsageError Matches :=
  p.settle.bind fun p =>
    match inner with
    | none =>
      if p.found.isEmpty then .error .helpOnMissing
      else .ok ⟨none, (p.get? .listFormats).isSome, p.get? .config⟩
    | some (request, q) =>
      -- An option behind the command goes before the same option in front of it.
      .ok ⟨some request, (p.get? .listFormats).isSome || (q.get? .listFormats).isSome,
        (q.get? .config).or (p.get? .config)⟩

/-- A word that the outer level does not know; `trailing` says that it stands behind `--`. -/
def strayWord (trailing : Bool) (word : String) : UsageError :=
  if trailing && isCommandWord word then .unknownArgument else .invalidCommand

/-- All words of the outer level. -/
def takeOuter : Progress → List String → Except UsageError Matches
  | p, [] => finishOuter p none
  | p, word :: words =>
    -- What would be the name of a command is a value where one is wanted.
    match if p.wantsValue then none else Name.ofWord? word with
    | some name => (matchInner name words).bind fun inner => finishOuter p (some inner)
    | none =>
      if !p.wantsValue && word == helpWord then .error (matchHelp words)
      else
        match Form.ofWord word with
        | .mark =>
          match words with
          | [] => finishOuter p none
          | word :: _ => .error (strayWord true word)
        | .plain =>
          if p.wantsValue then takeOuter (p.takeValue word) words
          else .error (strayWord false word)
        | _ => (takeWord .outer p word).bind fun p => takeOuter p words

/-- The command line made of the words behind the name of the program. -/
def matchWords (words : List String) : Except UsageError Matches := takeOuter .start words

/-! ### The default command -/

/-- The words with the default command put in front, unless the first word is an option or a
command. -/
def injectConvert? : List String → Option (List String)
  | [] => none
  | word :: words =>
    if isDashed word || isCommandWord word then none
    else some (Name.convert.word :: word :: words)

/-- The command line made of the words, where the default command may be left out. -/
def matchWithDefault (words : List String) : Except UsageError Matches :=
  match matchWords words with
  | .ok m => .ok m
  | .error e =>
    match injectConvert? words with
    | some injected => matchWords injected
    | none => .error e

end ServiceCharter.Command

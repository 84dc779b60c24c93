import ServiceCharter.Command.Disk

/-!
# Scripts

A run of the program is a script: a tree of the things it does, in which every answer of a file
operation leads to a script of its own. A script is carried out on a disk by `runOn`, or for real by
the outer layer, which does the same things in the same order.
-/

namespace ServiceCharter.Command

/-- What a run of the program does. -/
inductive Script where
  /-- Ends with an exit code. -/
  | exit (code : Nat)
  /-- Reads a file. -/
  | read (path : Text) (next : Except FileError ByteArray → Script)
  /-- Writes a file. -/
  | write (path : Text) (content : ByteArray) (next : Except FileError Unit → Script)
  /-- Writes to the standard output. -/
  | print (t : Text) (next : Script)
  /-- Writes to the standard error. -/
  | warn (t : Text) (next : Script)

/-- What a run leaves behind. -/
structure Outcome where
  code : Nat
  output : Text
  errors : Text
  disk : Disk

namespace Script

/-- Carries out a script on a disk. -/
def runOn : Script → Disk → Outcome
  | exit code, d => ⟨code, [], [], d⟩
  | read path next, d => (next (d.read path)).runOn d
  | write path content next, d =>
    match d.write path content with
    | .ok d' => (next (.ok ())).runOn d'
    | .error e => (next (.error e)).runOn d
  | print t next, d =>
    let o := next.runOn d
    { o with output := t ++ o.output }
  | warn t next, d =>
    let o := next.runOn d
    { o with errors := t ++ o.errors }

/-- Writes a line to the standard error and ends with a failure. -/
def fail (line : String) : Script := warn (line.toList ++ ['\n']) (exit 1)

/-- Writes a line to the standard output. -/
def printLine (t : Text) (next : Script) : Script := print (t ++ ['\n']) next

/-- Goes on with a result, or fails with the wording of its error. -/
def orFail {ε α : Type} (message : ε → String) (result : Except ε α) (next : α → Script) : Script :=
  match result with
  | .ok a => next a
  | .error e => fail (message e)

end Script

end ServiceCharter.Command

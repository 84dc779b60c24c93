import ServiceCharter.Command.Run

/-!
# The program

Carries out the script of the command line with the files, the standard output and the standard
error of the process.
-/

namespace ServiceCharter.Command

/-- Whether an error code is `expected`; some calls give the code negated. -/
def isCode (code : UInt32) (expected : UInt32) : Bool := code == expected || code == 0 - expected

/-- What a failed file operation is called. -/
def describeFailure : IO.Error → FileError
  | .noFileOrDirectory .. => .missing
  | .inappropriateType _ code _ => if isCode code 20 then .notFolder else .isFolder
  | .permissionDenied _ _ details => .other s!"{details} (os error 13)"
  | .invalidArgument _ code details =>
    if isCode code 36 then .nameTooLong else .other details
  | e => .other (toString e)

/-- The answer of a file operation. -/
def attempt {α : Type} (action : IO α) : IO (Except FileError α) := do
  try return .ok (← action)
  catch e => return .error (describeFailure e)

/-- Carries out a script for real. -/
def Script.perform : Script → IO UInt32
  | exit code => return code.toUInt32
  | read path next => do
    let answer ← attempt (IO.FS.readBinFile (String.ofList path))
    (next answer).perform
  | write path content next => do
    let answer ← attempt (IO.FS.writeBinFile (String.ofList path) content)
    (next answer).perform
  | print t next => do
    let out ← IO.getStdout
    out.putStr (String.ofList t)
    out.flush
    next.perform
  | warn t next => do
    let err ← IO.getStderr
    err.putStr (String.ofList t)
    next.perform

end ServiceCharter.Command

/-- Runs the program on the words of its command line. -/
def main (words : List String) : IO UInt32 := (ServiceCharter.Command.script words).perform

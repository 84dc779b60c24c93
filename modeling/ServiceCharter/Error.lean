/-!
# Errors shown to the user

Compiling, rendering and reducing never fail. What can fail is the handling of a document: there is
none yet, the input is blank, the service reports a failure, or a format is unknown or does not go
in the direction that is asked for.
-/

namespace ServiceCharter

/-- Why a request of the user is refused. -/
inductive ServiceError where
  /-- There is no document to work on. -/
  | noDocument (message : String)
  /-- The submitted text is rejected. -/
  | rejectedInput (message : String)
  /-- The service reports a failure, or its reply cannot be decoded. -/
  | serviceFailure (message : String)
  /-- No format has this name. -/
  | unknownFormat (name : String)
  /-- The format does not do what is asked for. -/
  | unsupported (message : String)
deriving DecidableEq, Repr

/-- The wording of an error. -/
def ServiceError.message : ServiceError → String
  | noDocument message => message
  | rejectedInput message => message
  | serviceFailure message => message
  | unknownFormat name => s!"Format '{name}' not found"
  | unsupported message => s!"Operation not supported: {message}"

end ServiceCharter

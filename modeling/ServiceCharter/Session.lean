import ServiceCharter.Download
import ServiceCharter.Reply.Envelope

/-!
# Sessions

A session holds the latest document, so that it can be copied and downloaded without compiling it
again. A document without content counts as none.

Whoever submits an input gives up the last document, and gets a new one with the reply of the
service: a successful reply is compiled and stored, and a failed one leaves the session empty.
-/

namespace ServiceCharter

/-- The latest document, if there is one. -/
structure Session where
  stored : Option Document
deriving DecidableEq, Repr

namespace Session

/-- A session without a document. -/
def new : Session := ⟨none⟩

/-- The session with a document stored. -/
def set (_ : Session) (d : Document) : Session := ⟨some d⟩

/-- The session without its document. -/
def clear (_ : Session) : Session := ⟨none⟩

/-- The stored document, if it has content. -/
def get? (s : Session) : Option Document := s.stored.filter fun d => !d.isEmpty

/-- Whether there is no document to show. -/
def isEmpty (s : Session) : Bool := s.get?.isNone

/-- The document, or the error that there is none, with the given message. -/
def documentOr (s : Session) (message : String) : Except ServiceError Document :=
  match s.get? with
  | some d => .ok d
  | none => .error (.noDocument message)

/-! ### Inputs and replies -/

/-- The message for an input of white space. -/
def blankInput : String := "Por favor, digite algum texto para processar."

/-- Submits an input: the session is cleared, and an input of white space is rejected. -/
def submit (s : Session) (input : Text) : Except ServiceError Unit × Session :=
  if Text.allBlank input then (.error (.rejectedInput blankInput), s.clear)
  else (.ok (), s.clear)

/-- Receives a reply: the document of a successful one is stored, and a failed one clears the
session. -/
def receive (s : Session) (reply : Reply) : Except ServiceError Document × Session :=
  match reply.fields? with
  | .error e => (.error e, s.clear)
  | .ok values => (.ok values.compile, s.set values.compile)

/-- Receives the raw text of a reply. One that cannot be decoded leaves the session as it is. -/
def receiveRaw (s : Session) (raw : Text) : Except ServiceError Document × Session :=
  match Reply.parse raw with
  | .error e => (.error e, s)
  | .ok reply => s.receive reply

/-! ### Downloads and copies -/

/-- The message when there is nothing to download. -/
def noDownload : String := "Nenhum resultado disponível para download."

/-- The message when there is nothing to copy. -/
def noCopy : String := "Nenhum resultado disponível para copiar."

/-- The document as a download. -/
def markdown (s : Session) (fileName : String) : Except ServiceError Download :=
  (s.documentOr noDownload).map (Download.markdown fileName)

/-- The plain text of the document as a download. -/
def plain (s : Session) (fileName : String) : Except ServiceError Download :=
  (s.documentOr noDownload).map (Download.plain fileName)

/-- The plain text of the document for the clipboard. -/
def copy (s : Session) : Except ServiceError Text :=
  (s.documentOr noCopy).map Document.plainText

/-! ### Steps -/

/-- What can be done with a session. -/
inductive Step where
  | set (d : Document)
  | clear
  | submit (input : Text)
  | receive (reply : Reply)
  | receiveRaw (raw : Text)
  | documentOr (message : String)
  | markdown (fileName : String)
  | plain (fileName : String)
  | copy

/-- What a step answers. -/
inductive Answer where
  | nothing
  | text (t : Text)
  | download (a : Download)
  | refused (e : ServiceError)

/-- The answer made of a result. -/
def Answer.ofExcept {α : Type} (answer : α → Answer) : Except ServiceError α → Answer
  | .ok a => answer a
  | .error e => .refused e

/-- Takes a step. -/
def perform (s : Session) : Step → Answer × Session
  | .set d => (.nothing, s.set d)
  | .clear => (.nothing, s.clear)
  | .submit input =>
    let (result, s') := s.submit input
    (.ofExcept (fun _ => .nothing) result, s')
  | .receive reply =>
    let (result, s') := s.receive reply
    (.ofExcept (fun d => .text d.source) result, s')
  | .receiveRaw raw =>
    let (result, s') := s.receiveRaw raw
    (.ofExcept (fun d => .text d.source) result, s')
  | .documentOr message => (.ofExcept (fun d => .text d.source) (s.documentOr message), s)
  | .markdown fileName => (.ofExcept .download (s.markdown fileName), s)
  | .plain fileName => (.ofExcept .download (s.plain fileName), s)
  | .copy => (.ofExcept .text s.copy, s)

/-- The session after a sequence of steps. -/
def run (s : Session) (steps : List Step) : Session :=
  steps.foldl (fun s step => (s.perform step).2) s

end Session

end ServiceCharter

import ServiceCharter.Error
import ServiceCharter.FieldValues
import ServiceCharter.Json.Reader
import ServiceCharter.Reply.Payload
import ServiceCharter.Text.Quoted

/-!
# Envelopes

A reply says whether the service succeeded, and carries a result or the text of an error. Each of
the three members has an English and a Portuguese name, and a reply with both of a pair is refused.
An object with neither name of the success member is read as the result itself.

The members are looked at in the order of their names, and the first problem is reported; that a
member is there twice is a problem before its value is looked at.
-/

namespace ServiceCharter

/-- A reply of the text service. -/
structure Reply where
  success : Bool
  result : Json.Value
  error : Option String
deriving DecidableEq, Repr

namespace Reply

/-- A successful reply. -/
def succeeded (result : Json.Value) : Reply := ⟨true, result, none⟩

/-- A failed reply. -/
def failed (error : Option String) : Reply := ⟨false, .null, error⟩

/-! ### Members -/

/-- A member of an envelope. -/
inductive Member where
  | success
  | result
  | error
deriving DecidableEq, Repr

/-- The name of a member in English, which is also the one that messages use. -/
def Member.name : Member → String
  | success => "success"
  | result => "result"
  | error => "error"

/-- The name of a member in Portuguese. -/
def Member.portugueseName : Member → String
  | success => "sucesso"
  | result => "resultado"
  | error => "erro"

/-- The member with a name in either language. -/
def Member.ofName? (name : String) : Option Member :=
  [success, result, error].find? fun m => m.name == name || m.portugueseName == name

/-- What is wrong with an envelope. -/
inductive EnvelopeFault where
  /-- The member is there under both names. -/
  | duplicate (member : Member)
  /-- The success member is no boolean. -/
  | successNoBoolean (found : Json.Value)
  /-- The error member is neither a string nor null. -/
  | errorNoString (found : Json.Value)
deriving Repr

/-- What a value of a wrong type is called. -/
def describe : Json.Value → String
  | .null => "null"
  | .bool b => s!"boolean `{b}`"
  | .number (.integer n) => s!"integer `{n}`"
  | .number n => s!"floating point `{String.ofList n.toText}`"
  | .string s => s!"string {String.ofList (Text.quoted s.toList)}"
  | .array _ => "sequence"
  | .object _ => "map"

/-- The wording of a fault. -/
def EnvelopeFault.message : EnvelopeFault → String
  | duplicate member => s!"duplicate field `{member.name}`"
  | successNoBoolean found => s!"invalid type: {describe found}, expected a boolean"
  | errorNoString found => s!"invalid type: {describe found}, expected a string"

/-! ### Decoding -/

/-- The members of an envelope that have been seen. -/
structure Seen where
  success : Option Bool
  result : Option Json.Value
  error : Option (Option String)
deriving Repr

/-- No member has been seen. -/
def Seen.nothing : Seen := ⟨none, none, none⟩

/-- Adds a member. -/
def Seen.add (seen : Seen) (member : Member) (v : Json.Value) : Except EnvelopeFault Seen :=
  match member with
  | .success =>
    if seen.success.isSome then .error (.duplicate .success)
    else
      match v with
      | .bool b => .ok { seen with success := some b }
      | v => .error (.successNoBoolean v)
  | .result =>
    if seen.result.isSome then .error (.duplicate .result)
    else .ok { seen with result := some v }
  | .error =>
    if seen.error.isSome then .error (.duplicate .error)
    else
      match v with
      | .null => .ok { seen with error := some none }
      | .string s => .ok { seen with error := some (some s) }
      | v => .error (.errorNoString v)

/-- Adds those of the members that belong to an envelope, in turn. -/
def Seen.addAll (seen : Seen) : Table Json.Value → Except EnvelopeFault Seen
  | [] => .ok seen
  | (name, v) :: members =>
    match Member.ofName? name with
    | none => seen.addAll members
    | some member =>
      match seen.add member v with
      | .error f => .error f
      | .ok seen => seen.addAll members

/-- The reply with the members seen; what is missing counts as false, null and absent. -/
def Seen.toReply (seen : Seen) : Reply where
  success := seen.success.getD false
  result := seen.result.getD .null
  error := seen.error.getD none

/-- The reply that the members of an envelope make. -/
def ofMembers (members : Table Json.Value) : Except EnvelopeFault Reply :=
  (Seen.nothing.addAll members).map Seen.toReply

/-- Whether the members are those of an envelope. -/
def isEnvelope (members : Table Json.Value) : Bool :=
  (members.get? Member.success.name).isSome || (members.get? Member.success.portugueseName).isSome

/-- The reply that a JSON value makes: an envelope, or the result itself. -/
def ofValue (v : Json.Value) : Except EnvelopeFault Reply :=
  if isEnvelope v.members then ofMembers v.members else .ok (succeeded v)

/-- The reply in a raw text. -/
def parse (raw : Text) : Except ServiceError Reply :=
  match Json.parse (payload raw) with
  | .error e => .error (.serviceFailure s!"Erro ao fazer parse do JSON: {e.message}")
  | .ok v =>
    match ofValue v with
    | .error f => .error (.serviceFailure s!"Resposta em formato inesperado: {f.message}")
    | .ok reply => .ok reply

/-! ### Using a reply -/

/-- The message of a failure that comes without one. -/
def unexplainedFailure : String := "Erro ao processar o texto. Tente novamente."

/-- The field values of a result: a bare string is the complete description. -/
def fields (reply : Reply) : FieldValues :=
  match reply.result with
  | .string s => FieldValues.empty.insert .description s
  | v => .ofValue v

/-- The message of a failed reply; one of white space counts as none. -/
def failureMessage (reply : Reply) : String :=
  (reply.error.filter fun m => !Text.allBlank m.toList).getD unexplainedFailure

/-- The field values of a successful reply, or the failure to report. -/
def fields? (reply : Reply) : Except ServiceError FieldValues :=
  if reply.success then .ok reply.fields else .error (.serviceFailure reply.failureMessage)

end Reply

end ServiceCharter

import LanguageServer.Content
import LanguageServer.ErrorCode

/-! Messages. A message has no tag: which kind it is shows in whether it has an id and a method
    (`classify`). It is read in three stages (`Message.ofJson`): the protocol version, the kind, and the
    form of the kind. A response has a result or an error, or neither yet, never both (`Outcome`). -/

namespace LanguageServer

open Content

/-- What a failed request is answered with. -/
structure ResponseError where
  code : Int32
  message : String
  data : Option Json := none
deriving DecidableEq

namespace ResponseError

/-- The form of `ResponseError`. -/
def schema : Schema :=
  .record "ResponseError" <|
    .required "code" (.plain .integer) <|
    .required "message" (.plain .string) <|
    .optional "data" .free <|
    .nil

/-- An error with a known code, without data. -/
def new (code : ErrorCode) (message : String) : ResponseError := { code := code.code, message }

/-- The error with data. -/
def withData (e : ResponseError) (data : Json) : ResponseError := { e with data := some data }

/-- The error that a failure is answered with. -/
def ofException (e : Exception) : ResponseError :=
  { code := e.code.code, message := e.message, data := e.data }

/-- The known code of the error. -/
def knownCode (e : ResponseError) : ErrorCode := .ofCode e.code

/-- The code lies in the range left to servers. -/
def isServerError (e : ResponseError) : Bool := ErrorCode.isServerError e.code

/-- The message with its code. -/
def text (e : ResponseError) : String := e.message ++ " (" ++ toString e.code.toInt ++ ")"

end ResponseError

instance : Content ResponseError where
  schema := ResponseError.schema
  pack x := (x.code, x.message, x.data, ())
  unpack := fun (code, message, data, _) => { code, message, data }
  unpack_pack _ := rfl
  pack_unpack _ := rfl

/-- A message that is to be answered. -/
structure Request where
  id : RequestId
  method : String
  params : Option Json := none
deriving DecidableEq

/-- The form of `Request`. -/
def Request.schema : Schema :=
  .record "RequestMessage" <|
    .version <|
    .required "id" (.nested .requestId) <|
    .required "method" (.plain .string) <|
    .optional "params" (.plain .object) <|
    .nil

instance : Content Request where
  schema := Request.schema
  pack x := (x.id, x.method, x.params, ())
  unpack := fun (id, method, params, _) => { id, method, params }
  unpack_pack _ := rfl
  pack_unpack _ := rfl

/-- The params as an interface; absent params are null. -/
def Request.paramsAs (α : Type) [Content α] (r : Request) : Except Fault α :=
  read α (r.params.getD .null)

/-- A message that is answered only if it fails. -/
structure Notification where
  method : String
  params : Option Json := none
deriving DecidableEq

/-- The form of `Notification`. -/
def Notification.schema : Schema :=
  .record "NotificationMessage" <|
    .version <|
    .required "method" (.plain .string) <|
    .optional "params" (.plain .object) <|
    .without "id" <|
    .nil

instance : Content Notification where
  schema := Notification.schema
  pack x := (x.method, x.params, ())
  unpack := fun (method, params, _) => { method, params }
  unpack_pack _ := rfl
  pack_unpack _ := rfl

/-- The params as an interface; absent params are null. -/
def Notification.paramsAs (α : Type) [Content α] (n : Notification) : Except Fault α :=
  read α (n.params.getD .null)

/-- How a request went. -/
inductive Outcome where
  | result (value : Json)
  | error (error : ResponseError)
deriving DecidableEq

/-- The answer to the request with an id; without an id, to a message whose id is not known. -/
structure Response where
  id : Option RequestId
  outcome : Option Outcome := none
deriving DecidableEq

namespace Response

/-- The form of `Response`. -/
def schema : Schema :=
  .record "ResponseMessage" <|
    .version <|
    .required "id" (.nested (.nullable .requestId)) <|
    .outcome "result" "error" ResponseError.schema <|
    .nil

/-- The outcome as a value of the schema. -/
def packOutcome : Option Outcome → Option (Json ⊕ ResponseError.schema.Value)
  | none => none
  | some (.result v) => some (.inl v)
  | some (.error e) => some (.inr (pack e))

/-- The outcome in a value of the schema. -/
def unpackOutcome : Option (Json ⊕ ResponseError.schema.Value) → Option Outcome
  | none => none
  | some (.inl v) => some (.result v)
  | some (.inr e) => some (.error (unpack e))

theorem unpackOutcome_packOutcome : (o : Option Outcome) → unpackOutcome (packOutcome o) = o
  | none => rfl
  | some (.result _) => rfl
  | some (.error _) => rfl

theorem packOutcome_unpackOutcome :
    (o : Option (Json ⊕ ResponseError.schema.Value)) → packOutcome (unpackOutcome o) = o
  | none => rfl
  | some (.inl _) => rfl
  | some (.inr _) => rfl

/-- An answer with a result. -/
def success (id : Option RequestId) (result : Json) : Response :=
  { id, outcome := some (.result result) }

/-- An answer with an error. -/
def failure (id : Option RequestId) (error : ResponseError) : Response :=
  { id, outcome := some (.error error) }

/-- The answer with a result in place of its outcome. -/
def setResult (r : Response) (result : Json) : Response :=
  { r with outcome := some (.result result) }

/-- The answer with an error in place of its outcome. -/
def setError (r : Response) (error : ResponseError) : Response :=
  { r with outcome := some (.error error) }

/-- The result, if there is one. -/
def result? (r : Response) : Option Json :=
  match r.outcome with
  | some (.result v) => some v
  | _ => none

/-- The error, if there is one. -/
def error? (r : Response) : Option ResponseError :=
  match r.outcome with
  | some (.error e) => some e
  | _ => none

/-- The text of the id by which requests are told apart. -/
def idText? (r : Response) : Option String := r.id.map (·.text)

/-- The result as an interface; an absent result is null. -/
def resultAs (α : Type) [Content α] (r : Response) : Except Fault α :=
  read α (r.result?.getD .null)

end Response

instance : Content Response where
  schema := Response.schema
  pack x := (x.id, Response.packOutcome x.outcome, ())
  unpack := fun (id, outcome, _) => { id, outcome := Response.unpackOutcome outcome }
  unpack_pack x := by simp only [Response.unpackOutcome_packOutcome]
  pack_unpack v := by
    obtain ⟨id, outcome, _⟩ := v
    exact congrArg (Prod.mk id)
      (congrArg (Prod.mk · ()) (Response.packOutcome_unpackOutcome outcome))

/-- The kinds of messages. -/
inductive MessageKind where
  | unknown
  | request
  | notification
  | response
deriving DecidableEq

/-- The name of a kind. -/
def MessageKind.text : MessageKind → String
  | unknown => "unknown"
  | request => "request"
  | notification => "notification"
  | response => "response"

/-- The value of a key, if the value is an object that has it. -/
def Json.get? (key : String) : Json → Option Json
  | .obj members => Members.get? key members
  | _ => none

/-- The kind that a value shows by its keys alone. -/
def classify (v : Json) : MessageKind :=
  match (v.get? "id").isSome, (v.get? "method").isSome with
  | true, true => .request
  | true, false => .response
  | false, true => .notification
  | false, false => .unknown

/-- A message. -/
inductive Message where
  | request (request : Request)
  | notification (notification : Notification)
  | response (response : Response)
deriving DecidableEq

namespace Message

/-- Reads a message: the version first, then the kind, then the form of the kind. -/
def ofJson (v : Json) : Except Fault Message :=
  match v with
  | .obj members =>
    match versionFault? members with
    | some fault => .error fault
    | none =>
      match classify v with
      | .request => (read Request v).map request
      | .notification => (read Notification v).map notification
      | .response => (read Response v).map response
      | .unknown => .error .unknownPayload
  | _ => .error (.invalid "Message" (.wrongType [Json.Kind.object.name]))

/-- Reads the text of a message. -/
def parse (text : String) : Except Fault Message :=
  match Json.read text with
  | .error fault => .error (.malformed fault)
  | .ok v => ofJson v

/-- The kind of a message. -/
def kind : Message → MessageKind
  | request _ => .request
  | notification _ => .notification
  | response _ => .response

/-- The method, of a request or a notification. -/
def method? : Message → Option String
  | request r => some r.method
  | notification n => some n.method
  | response _ => none

/-- Writes a message with its keys in the order of its form. -/
def write : Message → Json
  | request r => Content.write r
  | notification n => Content.write n
  | response r => Content.write r

/-- The message as JSON, with the members of objects in the order of their keys. -/
def toJson (m : Message) : Json := m.write.sorted

/-- The text of a message on one line. -/
def text (m : Message) : String := m.write.compact

end Message

end LanguageServer

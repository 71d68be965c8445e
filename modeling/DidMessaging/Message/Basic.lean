import DidMessaging.Json.Printer
import DidMessaging.Message.Attachment
import DidMessaging.Message.MediaType
import DidMessaging.Message.Rotation

namespace DidMessaging

/-! A message has headers of its own and any others, which are kept as they are. On the wire the
claims of a rotation are replaced by the signed text that proves them. -/

structure Message where
  id : String
  typ : MediaType := .plain
  type : String
  body : Json
  sender : Option String := none
  recipients : Option (List String) := none
  thid : Option String := none
  pthid : Option String := none
  createdTime : Option UInt64 := none
  expiresTime : Option UInt64 := none
  rotation : Option Rotation := none
  attachments : Option (List Attachment) := none
  pleaseAck : Option Bool := none
  ack : Option String := none
  extra : Members := []
deriving Repr

namespace Message

def reserved : List String :=
  ["id", "typ", "type", "body", "from", "to", "thid", "pthid", "created_time", "expires_time",
    "from_prior", "attachments", "please_ack", "ack"]

def rotationName : String := "from_prior"

def read? (t : Json.Tree) : Option Message := do
  let (fields, others) ← Json.Fields.open? reserved t
  let id ← fields.required? "id" (·.string?)
  let typ ← fields.defaulted? "typ" .plain (·.tag? MediaType.named?)
  let type ← fields.required? "type" (·.string?)
  let body ← fields.required? "body" (·.json?)
  let sender ← fields.optional? "from" (·.string?)
  let recipients ← fields.optional? "to" (·.strings?)
  let thid ← fields.optional? "thid" (·.string?)
  let pthid ← fields.optional? "pthid" (·.string?)
  let createdTime ← fields.optional? "created_time" (·.nat?)
  let expiresTime ← fields.optional? "expires_time" (·.nat?)
  let rotation ← fields.optional? rotationName Rotation.read?
  let attachments ← fields.optional? "attachments" (·.list? Attachment.read?)
  let pleaseAck ← fields.optional? "please_ack" (·.bool?)
  let ack ← fields.optional? "ack" (·.string?)
  let members ← others.mapM fun m => m.2.json?.map (m.1, ·)
  let extra := Members.ofList members
  return {
    id, typ, type, body, sender, recipients, thid, pthid, createdTime, expiresTime, rotation,
    attachments, pleaseAck, ack, extra }

def ownMembers (m : Message) : Members :=
  [("id", .string m.id), ("typ", .string m.typ.name), ("type", .string m.type), ("body", m.body)]
    ++ Json.optional "from" .string m.sender
    ++ Json.optional "to" .strings m.recipients
    ++ Json.optional "thid" .string m.thid
    ++ Json.optional "pthid" .string m.pthid
    ++ Json.optional "created_time" (fun n => .number (.nat n)) m.createdTime
    ++ Json.optional "expires_time" (fun n => .number (.nat n)) m.expiresTime
    ++ Json.optional rotationName (·.json) m.rotation
    ++ Json.optional "attachments" (fun as => .array (as.map (·.json))) m.attachments
    ++ Json.optional "please_ack" .bool m.pleaseAck
    ++ Json.optional "ack" .string m.ack

def members (m : Message) : Members :=
  Members.ofList ((m.ownMembers ++ m.extra).map fun (name, j) => (name, j.sorted))

def json (m : Message) : Json := .object m.members

/-- The message as it is sent: sorted, with the signed text of the rotation. -/
def wire (m : Message) (proof : Option String) : Json :=
  match proof with
  | some jwt => .object (Members.insert rotationName (.string jwt) m.members)
  | none => m.json

def wireText (m : Message) (proof : Option String) : String := (m.wire proof).text

/-- A message as received, without its rotation, and the text that is to prove the rotation. -/
def ofWire (value : Json) : Result (Message × Option String) := do
  let (value, proof) ← match value with
    | .object members =>
      let rest : Json := .object (members.filter (·.1 ≠ rotationName))
      match Members.find? rotationName members with
      | none => .ok (rest, none)
      | some .null => .ok (rest, none)
      | some (.string jwt) => .ok (rest, some jwt)
      | some _ => .error (.malformed .rotationNotJwt)
    | value => .ok (value, none)
  match read? (.ofJson value) with
  | some m => return (m, proof)
  | none => throw (.malformed .plaintext)

def bodyIsObject (m : Message) : Bool :=
  match m.body with
  | .object _ => true
  | _ => false

def validate (m : Message) : Except Illegal Unit := do
  if m.typ ≠ .plain then throw .mediaType
  if !m.bodyIsObject then throw .bodyNotObject
  if let some sender := m.sender then Did.validate sender "from"
  (m.recipients.getD []).forM (Did.validate · "to")
  if let some name := (Members.names m.extra).find? (reserved.contains ·) then
    throw (.reservedHeader name)
  if let some rotation := m.rotation then
    rotation.validate
    if let some sender := m.sender then
      if rotation.sub ≠ sender then throw .subjectNotSender

/-- Adds a header that is not one of the message's own, or replaces it. -/
def withHeader (m : Message) (name : String) (value : Json) : Message :=
  { m with extra := Members.insert name value m.extra }

def withAttachment (m : Message) (a : Attachment) : Message :=
  { m with attachments := some (m.attachments.getD [] ++ [a]) }

end Message

end DidMessaging

import DidMessaging.Agent.Keys
import DidMessaging.Envelope.Encryption
import DidMessaging.Message.Id

namespace DidMessaging

structure Forward where
  message : Message
  next : String
  carried : Json
deriving Repr

namespace Forward

def type : String := "https://didcomm.org/routing/2.0/forward"

def nextOf? (body : Json) : Option String :=
  match body with
  | .object members =>
    match Members.find? "next" members with
    | some (.string next) => some next
    | _ => none
  | _ => none

def carriedBy? (a : Attachment) : Option Json :=
  match a.content with
  | .value j _ _ => some j
  | .base64 text _ _ => (Base64Url.decode? text).bind fun bytes =>
    (Json.Tree.readBytes? bytes).bind (·.json?)
  | .links .. => none

/-- A message of the type for forwarding that says where to, and has exactly one attachment. -/
def ofMessage? (m : Message) : Option Forward := do
  guard (m.type = type)
  let next ← nextOf? m.body
  match m.attachments with
  | some [a] =>
    let carried ← carriedBy? a
    return { message := m, next, carried }
  | _ => none

def create (packed next : String) (headers : Members) : Draw Message := do
  let some carried := Json.read? packed | throw .json
  let m ← Message.create type (.object [("next", .string next)])
  let m := headers.foldl (fun m h => m.withHeader h.1 h.2) (m.withAttachment (.ofJson carried))
  Result.ofCheck m.validate
  return m

end Forward

namespace Directory

def keyless (d : Directory) : Agent := ⟨d, Keyring.empty⟩

def wrapOnce (d : Directory) (headers : Members) (a : AnonAlgorithm)
    (packed next routingKey : String) : Draw String := do
  let m ← Forward.create packed next headers
  let keys ← d.keyless.anoncryptKeys routingKey
  let jwe ← Jwe.anoncrypt (Utf8.encode (m.wireText none)) a keys
  return jwe.text

/-- Wraps a packed message once for each routing key, the last one first. Each forward message
names the key of the hop after it, the innermost the recipient. -/
def wrapInForward (d : Directory) (headers : Members) (a : AnonAlgorithm)
    (packed recipient : String) : List String → Draw String
  | [] => return packed
  | key :: keys => do
    let inner ← d.wrapInForward headers a packed recipient keys
    d.wrapOnce headers a inner (keys.head?.getD recipient) key

end Directory

end DidMessaging

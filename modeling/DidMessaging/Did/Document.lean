import DidMessaging.Key.Material

namespace DidMessaging

/-- Where messages for a DID are delivered. The endpoint is a transport address, or the DID of a
mediator. -/
structure Service where
  id : String
  type : String
  endpoint : String
  routingKeys : List String
  accept : List String
deriving DecidableEq, Repr

namespace Service

def messagingType : String := "DIDCommMessaging"

def profile : String := "didcomm/v2"

def isMessaging (s : Service) : Bool := s.type = messagingType

/-- A service that declares no profile accepts ours. -/
def accepts (s : Service) : Bool := s.accept.isEmpty || s.accept.contains profile

def fieldNames : List String := ["id", "type", "serviceEndpoint", "routingKeys", "accept"]

def read? (t : Json.Tree) : Option Service := do
  let fields ← Json.Fields.read? fieldNames 3 t
  let id ← fields.required? "id" (·.string?)
  let type ← fields.required? "type" (·.string?)
  let endpoint ← fields.required? "serviceEndpoint" (·.string?)
  let routingKeys ← fields.defaulted? "routingKeys" [] (·.strings?)
  let accept ← fields.defaulted? "accept" [] (·.strings?)
  return { id, type, endpoint, routingKeys, accept }

def json (s : Service) : Json :=
  .object [("id", .string s.id), ("type", .string s.type), ("serviceEndpoint", .string s.endpoint),
    ("routingKeys", .strings s.routingKeys), ("accept", .strings s.accept)]

end Service

structure Document where
  id : String
  /-- The ids of the keys for encryption, the preferred ones first. -/
  keyAgreement : List String
  /-- The ids of the keys for signatures, the preferred ones first. -/
  authentication : List String
  methods : List VerificationMethod
  services : List Service
deriving Repr

namespace Document

def fieldNames : List String :=
  ["id", "keyAgreement", "authentication", "verificationMethod", "service"]

def read? (t : Json.Tree) : Option Document := do
  let fields ← Json.Fields.read? fieldNames 1 t
  let id ← fields.required? "id" (·.string?)
  let keyAgreement ← fields.defaulted? "keyAgreement" [] (·.strings?)
  let authentication ← fields.defaulted? "authentication" [] (·.strings?)
  let methods ← fields.defaulted? "verificationMethod" [] (·.list? VerificationMethod.read?)
  let services ← fields.defaulted? "service" [] (·.list? Service.read?)
  return { id, keyAgreement, authentication, methods, services }

def json (d : Document) : Json :=
  .object [("id", .string d.id), ("keyAgreement", .strings d.keyAgreement),
    ("authentication", .strings d.authentication),
    ("verificationMethod", .array (d.methods.map (·.json))),
    ("service", .array (d.services.map (·.json)))]

def method? (d : Document) (id : String) : Option VerificationMethod :=
  d.methods.find? (·.id = id)

def method (d : Document) (id : String) : Result VerificationMethod :=
  match d.method? id with
  | some m => .ok m
  | none => .error (.didUrlNotFound id)

def agreementMethods (d : Document) : Result (List VerificationMethod) :=
  d.keyAgreement.mapM d.method

def messagingServices (d : Document) : List Service :=
  d.services.filter (·.isMessaging)

end Document

end DidMessaging

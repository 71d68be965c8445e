import DidMessaging.Agent.Forward
import DidMessaging.Agent.Rotation
import DidMessaging.Agent.Services

namespace DidMessaging

structure PackedPlaintext where
  text : String
  rotationKid : Option String
deriving DecidableEq, Repr

structure PackedSigned where
  text : String
  signKid : String
  rotationKid : Option String
deriving DecidableEq, Repr

structure Delivery where
  id : String
  endpoint : String
deriving DecidableEq, Repr

structure PackedEncrypted where
  text : String
  toKids : List String
  fromKid : Option String
  signKid : Option String
  rotationKid : Option String
  delivery : Option Delivery
deriving DecidableEq, Repr

structure EncryptOptions where
  /-- Hides an authenticated sender in another envelope without one. -/
  protectSender : Bool := false
  forward : Bool := true
  forwardHeaders : Members := []
  serviceId : Option String := none
  rotationKid : Option String := none
  authAlgorithm : AuthAlgorithm := .usual
  anonAlgorithm : AnonAlgorithm := .usual

namespace Agent

def plaintext (a : Agent) (m : Message) (rotationKid : Option String) : Result PackedPlaintext := do
  let proof ← a.proofFor m rotationKid
  return { text := m.wireText (proof.map (·.jwt)), rotationKid := proof.map (·.kid) }

def packPlaintext (a : Agent) (m : Message) (rotationKid : Option String) :
    Result PackedPlaintext := do
  Result.ofCheck m.validate
  a.plaintext m rotationKid

def checkSigner (m : Message) (signer : String) : Except Illegal Unit := do
  Did.validateUrl signer "sign_by"
  if m.sender ≠ some (Did.ofUrl signer) then throw (.signerNotFrom (Did.ofUrl signer))

def signBy (a : Agent) (payload signer : String) : Result (String × String) := do
  let key ← a.signingKey signer
  let jws ← Jws.sign (Utf8.encode payload) key
  return (jws.text, key.id)

def packSigned (a : Agent) (m : Message) (signer : String) (rotationKid : Option String) :
    Result PackedSigned := do
  Result.ofCheck m.validate
  Result.ofCheck (checkSigner m signer)
  let plain ← a.plaintext m rotationKid
  let (text, signKid) ← a.signBy plain.text signer
  return { text, signKid, rotationKid := plain.rotationKid }

def checkParties (m : Message) (recipient : String) (sender signer : Option String) :
    Except Illegal Unit := do
  m.validate
  Did.validateUrl recipient "to"
  if let some recipients := m.recipients then
    if !recipients.contains (Did.ofUrl recipient) then
      throw (.recipientNotListed (Did.ofUrl recipient))
  if let some sender := sender then
    Did.validateUrl sender "from"
    if m.sender ≠ some (Did.ofUrl sender) then throw (.senderNotFrom (Did.ofUrl sender))
  if let some signer := signer then checkSigner m signer

/-- What is encrypted: the plaintext, or its signed envelope, with the id of the signing key. -/
def payload (a : Agent) (plain : String) (signer : Option String) :
    Result (String × Option String) := do
  match signer with
  | some signer =>
    let (text, kid) ← a.signBy plain signer
    return (text, some kid)
  | none => return (plain, none)

/-- The encrypted text of a payload, the ids of the recipient keys and that of the sender key. -/
def encryptFor (a : Agent) (payload recipient : String) (sender : Option String)
    (options : EncryptOptions) : Draw (String × List String × Option String) := do
  match sender with
  | some sender =>
    let (key, keys) ← a.authcryptKeys sender recipient
    let jwe ← Jwe.authcrypt (Utf8.encode payload) options.authAlgorithm key keys
    if options.protectSender then
      let outer ← Jwe.anoncrypt (Utf8.encode jwe.text) options.anonAlgorithm keys
      return (outer.text, keys.map (·.id), some key.id)
    else
      return (jwe.text, keys.map (·.id), some key.id)
  | none =>
    let keys ← a.anoncryptKeys recipient
    let jwe ← Jwe.anoncrypt (Utf8.encode payload) options.anonAlgorithm keys
    return (jwe.text, keys.map (·.id), none)

def route (a : Agent) (text recipient : String) (options : EncryptOptions) :
    Draw (String × Option Delivery) := do
  let services ← a.directory.serviceChain recipient options.serviceId
  match services.head?, services.getLast? with
  | some first, some last =>
    let keys := services.flatMap (·.routingKeys)
    if keys.isEmpty && 1 < services.length then
      throw (.service (Did.ofUrl recipient) .noRoutingKeys)
    let wrapped ←
      a.directory.wrapInForward options.forwardHeaders options.anonAlgorithm text recipient keys
    return (wrapped, some { id := last.id, endpoint := first.endpoint })
  | _, _ => return (text, none)

def packEncrypted (a : Agent) (m : Message) (recipient : String) (sender signer : Option String)
    (options : EncryptOptions) : Draw PackedEncrypted := do
  Result.ofCheck (checkParties m recipient sender signer)
  let plain ← a.plaintext m options.rotationKid
  let (payload, signKid) ← a.payload plain.text signer
  let (text, toKids, fromKid) ← a.encryptFor payload recipient sender options
  let (text, delivery) ←
    if options.forward then a.route text recipient options else pure (text, none)
  return { text, toKids, fromKid, signKid, rotationKid := plain.rotationKid, delivery }

end Agent

end DidMessaging

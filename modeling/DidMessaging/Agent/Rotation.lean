import DidMessaging.Agent.Keys
import DidMessaging.Envelope.Jws
import DidMessaging.Message.Basic

namespace DidMessaging

structure Rotation.Proof where
  jwt : String
  kid : String
deriving DecidableEq, Repr

namespace Agent

/-- Signs a rotation. A key that is asked for has to be one of the DID that is given up. -/
def prove (a : Agent) (r : Rotation) (kid : Option String) : Result Rotation.Proof := do
  Result.ofCheck r.validate
  if let some kid := kid then
    if !Did.isUrl kid || Did.ofUrl kid ≠ r.iss then throw (.illegal (.issuerKey kid r.iss))
  let key ← a.signingKey (kid.getD r.iss)
  let jwt ← CompactJws.sign (Utf8.encode r.json.text) key "JWT"
  return { jwt, kid := key.id }

def checkProof (a : Agent) (jwt : String) : Result (Rotation × Rotation.Proof) := do
  let compact ← CompactJws.parse jwt
  let kid := compact.header.kid
  let key ← a.verificationKey kid
  compact.verify key
  let payload ← compact.decodePayload
  let some r := (Json.Tree.readBytes? payload).bind Rotation.read? | throw (.malformed .claims)
  if Did.ofUrl kid ≠ r.iss then throw (.malformed (.issuer kid r.iss))
  match r.validate with
  | .ok () => return (r, { jwt, kid })
  | .error cause => throw (.malformed (.illegalClaims cause))

def proofFor (a : Agent) (m : Message) (kid : Option String) : Result (Option Rotation.Proof) :=
  match m.rotation with
  | some r => (a.prove r kid).map some
  | none => .ok none

end Agent

end DidMessaging

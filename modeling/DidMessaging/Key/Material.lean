import DidMessaging.Key.Basic
import DidMessaging.Text.Multibase

namespace DidMessaging

inductive KeyType
  | jsonWebKey2020
  | x25519KeyAgreementKey2019
  | x25519KeyAgreementKey2020
  | ed25519VerificationKey2018
  | ed25519VerificationKey2020
  | other (name : String)
deriving DecidableEq, Repr

namespace KeyType

def name : KeyType → String
  | .jsonWebKey2020 => "JsonWebKey2020"
  | .x25519KeyAgreementKey2019 => "X25519KeyAgreementKey2019"
  | .x25519KeyAgreementKey2020 => "X25519KeyAgreementKey2020"
  | .ed25519VerificationKey2018 => "Ed25519VerificationKey2018"
  | .ed25519VerificationKey2020 => "Ed25519VerificationKey2020"
  | .other name => name

def ofName : String → KeyType
  | "JsonWebKey2020" => .jsonWebKey2020
  | "X25519KeyAgreementKey2019" => .x25519KeyAgreementKey2019
  | "X25519KeyAgreementKey2020" => .x25519KeyAgreementKey2020
  | "Ed25519VerificationKey2018" => .ed25519VerificationKey2018
  | "Ed25519VerificationKey2020" => .ed25519VerificationKey2020
  | name => .other name

@[simp] theorem name_ofName (s : String) : (ofName s).name = s := by
  unfold ofName
  split <;> rfl

end KeyType

inductive Material
  | jwk (value : Json)
  | base58 (text : String)
  | multibase (text : String)
deriving Repr

namespace Material

def format : Material → String
  | .jwk _ => "JWK"
  | .base58 _ => "Base58"
  | .multibase _ => "Multibase"

/-- The name of the member that holds the material; `side` is `public` or `private`. -/
def memberName (side : String) (m : Material) : String :=
  match m with
  | .jwk _ => side ++ "KeyJwk"
  | .base58 _ => side ++ "KeyBase58"
  | .multibase _ => side ++ "KeyMultibase"

def value : Material → Json
  | .jwk value => value
  | .base58 text => .string text
  | .multibase text => .string text

/-- What a member holds if its name is one of those for material. -/
def ofMember? (side name : String) (t : Json.Tree) : Option (Option Material) :=
  if name = side ++ "KeyJwk" then some (t.json?.map .jwk)
  else if name = side ++ "KeyBase58" then some (t.string?.map .base58)
  else if name = side ++ "KeyMultibase" then some (t.string?.map .multibase)
  else none

def ofMembers? (side : String) (members : List (String × Json.Tree)) : Option Material :=
  (members.findSome? fun m => ofMember? side m.1 m.2).join

end Material

structure VerificationMethod where
  id : String
  type : KeyType
  controller : String
  material : Material
deriving Repr

namespace VerificationMethod

def read? (t : Json.Tree) : Option VerificationMethod := do
  let (fields, others) ← Json.Fields.open? ["id", "type", "controller"] t
  let id ← fields.required? "id" (·.string?)
  let type ← fields.required? "type" (·.string?)
  let controller ← fields.required? "controller" (·.string?)
  let material ← Material.ofMembers? "public" others
  return { id, type := .ofName type, controller, material }

def json (m : VerificationMethod) : Json :=
  .object [("id", .string m.id), ("type", .string m.type.name),
    ("controller", .string m.controller), (m.material.memberName "public", m.material.value)]

end VerificationMethod

/-- A private key of the verification method with the same id. -/
structure Secret where
  id : String
  type : KeyType
  material : Material
deriving Repr

namespace Secret

def read? (t : Json.Tree) : Option Secret := do
  let (fields, others) ← Json.Fields.open? ["id", "type"] t
  let id ← fields.required? "id" (·.string?)
  let type ← fields.required? "type" (·.string?)
  let material ← Material.ofMembers? "private" others
  return { id, type := .ofName type, material }

def json (s : Secret) : Json :=
  .object [("id", .string s.id), ("type", .string s.type.name),
    (s.material.memberName "private", s.material.value)]

end Secret

namespace Key

def decodeBase58 (text : String) : Result Bytes :=
  match Base58.decode? text with
  | some bytes => .ok bytes
  | none => .error (.crypto .base58)

/-- The octets of multibase text after the two that say what key they are. -/
def decodeMulticodec (code : UInt8) (text : String) : Result Bytes :=
  match Multibase.decode? text with
  | none => .error (.crypto .multibase)
  | some (a :: b :: raw) =>
    if a = code ∧ b = 1 then .ok raw else .error (.crypto (.multicodec code))
  | some _ => .error (.crypto (.multicodec code))

def x25519Code : UInt8 := 0xEC

def ed25519Code : UInt8 := 0xED

def ofMethod (m : VerificationMethod) : Result Key :=
  match m.type, m.material with
  | .jsonWebKey2020, .jwk value => ofJson m.id value
  | .x25519KeyAgreementKey2019, .base58 text => do ofRaw m.id .x25519 (← decodeBase58 text)
  | .ed25519VerificationKey2018, .base58 text => do ofRaw m.id .ed25519 (← decodeBase58 text)
  | .x25519KeyAgreementKey2020, .multibase text => do
    ofRaw m.id .x25519 (← decodeMulticodec x25519Code text)
  | .ed25519VerificationKey2020, .multibase text => do
    ofRaw m.id .ed25519 (← decodeMulticodec ed25519Code text)
  | .other name, _ => .error (.methodType name)
  | type, material => .error (.methodFormat material.format type.name)

/-- The private key of a secret; only JSON Web Keys serve. -/
def ofSecret (s : Secret) : Result Key :=
  match s.type, s.material with
  | .jsonWebKey2020, .jwk value => do
    let key ← ofJson s.id value
    if key.isPrivate then return key else throw (.crypto (.noPrivatePart s.id))
  | .jsonWebKey2020, material => .error (.secretFormat material.format s.type.name)
  | type, _ => .error (.secretType type.name)

end Key

end DidMessaging

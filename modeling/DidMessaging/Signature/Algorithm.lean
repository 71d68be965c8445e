import DidMessaging.Curve.Ecdsa
import DidMessaging.Curve.Edwards
import DidMessaging.Error

namespace DidMessaging

inductive SignatureAlgorithm
  | edDsa
  | es256
  | es256k
deriving DecidableEq, Repr

namespace SignatureAlgorithm

def name : SignatureAlgorithm → String
  | .edDsa => "EdDSA"
  | .es256 => "ES256"
  | .es256k => "ES256K"

def named? : String → Option SignatureAlgorithm
  | "EdDSA" => some .edDsa
  | "ES256" => some .es256
  | "ES256K" => some .es256k
  | _ => none

def ofName (name : String) : Result SignatureAlgorithm :=
  match named? name with
  | some a => .ok a
  | none => .error (.malformed (.signatureAlgorithm name))

def ofCurve : Curve → Result SignatureAlgorithm
  | .ed25519 => .ok .edDsa
  | .p256 => .ok .es256
  | .secp256k1 => .ok .es256k
  | .x25519 => .error (.unsupported (.signing .x25519))

def signOn (c : Weierstrass) (normalize : Bool) (key data : Bytes) : Result Bytes := do
  let some n := c.scalar? key | throw (.crypto .signature)
  let some signature := Ecdsa.sign? c normalize n data | throw (.crypto .signature)
  return signature

def sign (a : SignatureAlgorithm) (key data : Bytes) : Result Bytes :=
  match a with
  | .edDsa =>
    if key.length = 32 then .ok (Ed25519.sign key data) else .error (.crypto .signingKeySize)
  | .es256 => signOn .p256 false key data
  | .es256k => signOn .secp256k1 true key data

def verifyOn (c : Weierstrass) (normalize : Bool) (key data signature : Bytes) : Result Bool := do
  let some s := c.decode? key | throw (.crypto .signature)
  return Ecdsa.verify c normalize s data signature

/-- Verifies with a public key: 32 octets for Edwards curves, else an encoded point. A malformed
signature does not hold. -/
def verify (a : SignatureAlgorithm) (key data signature : Bytes) : Result Bool :=
  match a with
  | .edDsa => do
    if key.length ≠ 32 then throw (.crypto .verifyingKeySize)
    let some s := Ed25519.decompress? key | throw (.crypto .notOnEdwardsCurve)
    return Ed25519.verify key s data signature
  | .es256 => verifyOn .p256 false key data signature
  | .es256k => verifyOn .secp256k1 true key data signature

theorem named?_eq_some_iff {s : String} {a : SignatureAlgorithm} :
    named? s = some a ↔ s = a.name := by
  constructor
  · intro h
    unfold named? at h
    split at h <;> simp_all [name] <;> subst h <;> rfl
  · rintro rfl
    cases a <;> rfl

end SignatureAlgorithm

end DidMessaging

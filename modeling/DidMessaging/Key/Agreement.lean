import DidMessaging.Curve.Montgomery
import DidMessaging.Curve.Weierstrass
import DidMessaging.Entropy
import DidMessaging.Key.Basic

namespace DidMessaging.Key

def agreeOn (c : Weierstrass) (privateKey publicKey : Key) : Result Bytes := do
  let d ← privateKey.d
  let some n := c.scalar? d | throw (.crypto .scalar)
  let point ← publicKey.point
  let some s := c.decode? point | throw (.crypto (.point publicKey.curve publicKey.id))
  return c.agree n s

/-- The shared secret of a private and a public key. A public point of low order gives none. -/
def agree (privateKey publicKey : Key) : Result Bytes := do
  if privateKey.curve ≠ publicKey.curve then
    throw (.incompatible
      (.keys privateKey.curve privateKey.id publicKey.curve publicKey.id))
  match privateKey.curve with
  | .x25519 =>
    let d ← privateKey.d
    let x ← publicKey.x
    let shared := X25519.agree d x
    if shared = Bytes.zeros 32 then throw (.crypto (.nonContributory publicKey.id))
    return shared
  | .p256 => agreeOn .p256 privateKey publicKey
  | .secp256k1 => agreeOn .secp256k1 privateKey publicKey
  | .ed25519 => throw (.unsupported (.agreement .ed25519))

/-- The first 32 octets that are a scalar of the curve; `tries` bounds the search. -/
def drawScalar (c : Weierstrass) : (tries : Nat) → Draw Nat
  | 0 => throw (.crypto .scalar)
  | tries + 1 => do
    match c.scalar? (← Entropy.bytes 32) with
    | some n => return n
    | none => drawScalar c tries

def ephemeralOn (c : Weierstrass) (curve : Curve) : Draw Key := do
  let n ← drawScalar c 65536
  let (x, y) := c.publicKey n
  Key.ofJwk "" ⟨curve.keyType, curve.name, Base64Url.encode x, some (Base64Url.encode y),
    some (Base64Url.encode (Bytes.ofNat 32 n))⟩

def ephemeral (curve : Curve) : Draw Key := do
  match curve with
  | .x25519 =>
    let d ← Entropy.bytes 32
    Key.ofJwk "" ⟨curve.keyType, curve.name, Base64Url.encode (X25519.publicKey d), none,
      some (Base64Url.encode d)⟩
  | .p256 => ephemeralOn .p256 curve
  | .secp256k1 => ephemeralOn .secp256k1 curve
  | .ed25519 => throw (.unsupported (.agreement .ed25519))

end DidMessaging.Key

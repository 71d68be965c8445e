namespace DidMessaging

inductive Curve
  | x25519
  | ed25519
  | p256
  | secp256k1
deriving DecidableEq, Repr

namespace Curve

def name : Curve → String
  | .x25519 => "X25519"
  | .ed25519 => "Ed25519"
  | .p256 => "P-256"
  | .secp256k1 => "secp256k1"

def named? : String → Option Curve
  | "X25519" => some .x25519
  | "Ed25519" => some .ed25519
  | "P-256" => some .p256
  | "secp256k1" => some .secp256k1
  | _ => none

def planar : Curve → Bool
  | .x25519 | .ed25519 => false
  | .p256 | .secp256k1 => true

def keyType (c : Curve) : String :=
  if c.planar then "EC" else "OKP"

theorem named?_eq_some_iff {s : String} {c : Curve} : named? s = some c ↔ s = c.name := by
  constructor
  · intro h
    unfold named? at h
    split at h <;> simp_all [name] <;> subst h <;> rfl
  · rintro rfl
    cases c <;> rfl

end Curve

end DidMessaging

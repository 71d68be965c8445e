namespace DidMessaging

inductive ContentAlgorithm
  /-- AES-256 in CBC mode, authenticated with HMAC-SHA-512. -/
  | a256cbcHs512
  /-- XChaCha20-Poly1305. -/
  | xc20p
  /-- AES-256 in Galois/Counter mode. -/
  | a256gcm
deriving DecidableEq, Repr

namespace ContentAlgorithm

def name : ContentAlgorithm → String
  | .a256cbcHs512 => "A256CBC-HS512"
  | .xc20p => "XC20P"
  | .a256gcm => "A256GCM"

def named? : String → Option ContentAlgorithm
  | "A256CBC-HS512" => some .a256cbcHs512
  | "XC20P" => some .xc20p
  | "A256GCM" => some .a256gcm
  | _ => none

def keySize : ContentAlgorithm → Nat
  | .a256cbcHs512 => 64
  | .xc20p | .a256gcm => 32

def ivSize : ContentAlgorithm → Nat
  | .a256cbcHs512 => 16
  | .xc20p => 24
  | .a256gcm => 12

def tagSize : ContentAlgorithm → Nat
  | .a256cbcHs512 => 32
  | .xc20p | .a256gcm => 16

theorem named?_eq_some_iff {s : String} {a : ContentAlgorithm} :
    named? s = some a ↔ s = a.name := by
  constructor
  · intro h
    unfold named? at h
    split at h <;> simp_all [name] <;> subst h <;> rfl
  · rintro rfl
    cases a <;> rfl

end ContentAlgorithm

end DidMessaging

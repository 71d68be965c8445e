import DidMessaging.Json.Record

namespace DidMessaging

structure Jwk where
  kty : String
  crv : String
  x : String
  y : Option String
  d : Option String
deriving DecidableEq, Repr

namespace Jwk

def fieldNames : List String := ["kty", "crv", "x", "y", "d"]

def read? (t : Json.Tree) : Option Jwk := do
  let fields ← Json.Fields.read? fieldNames 5 t
  let kty ← fields.required? "kty" (·.string?)
  let crv ← fields.required? "crv" (·.string?)
  let x ← fields.required? "x" (·.string?)
  let y ← fields.optional? "y" (·.string?)
  let d ← fields.optional? "d" (·.string?)
  return { kty, crv, x, y, d }

def json (k : Jwk) : Json :=
  .object ([("kty", .string k.kty), ("crv", .string k.crv), ("x", .string k.x)]
    ++ Json.optional "y" .string k.y ++ Json.optional "d" .string k.d)

def toPublic (k : Jwk) : Jwk := { k with d := none }

@[simp] theorem toPublic_toPublic (k : Jwk) : k.toPublic.toPublic = k.toPublic := rfl

end Jwk

end DidMessaging

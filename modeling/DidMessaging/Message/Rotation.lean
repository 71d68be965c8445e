import DidMessaging.Did.Url
import DidMessaging.Json.Record

namespace DidMessaging

structure Rotation where
  /-- The DID that is given up. -/
  iss : String
  /-- The DID that replaces it. -/
  sub : String
  aud : Option String := none
  exp : Option UInt64 := none
  nbf : Option UInt64 := none
  iat : Option UInt64 := none
  jti : Option String := none
deriving DecidableEq, Repr

namespace Rotation

def fieldNames : List String := ["iss", "sub", "aud", "exp", "nbf", "iat", "jti"]

def read? (t : Json.Tree) : Option Rotation := do
  let fields ← Json.Fields.read? fieldNames 7 t
  let iss ← fields.required? "iss" (·.string?)
  let sub ← fields.required? "sub" (·.string?)
  let aud ← fields.optional? "aud" (·.string?)
  let exp ← fields.optional? "exp" (·.nat?)
  let nbf ← fields.optional? "nbf" (·.nat?)
  let iat ← fields.optional? "iat" (·.nat?)
  let jti ← fields.optional? "jti" (·.string?)
  return { iss, sub, aud, exp, nbf, iat, jti }

def seconds (n : UInt64) : Json := .number (.nat n)

def json (r : Rotation) : Json :=
  .object ([("iss", .string r.iss), ("sub", .string r.sub)]
    ++ Json.optional "aud" .string r.aud ++ Json.optional "exp" seconds r.exp
    ++ Json.optional "nbf" seconds r.nbf ++ Json.optional "iat" seconds r.iat
    ++ Json.optional "jti" .string r.jti)

def validate (r : Rotation) : Except Illegal Unit := do
  Did.validate r.iss "from_prior.iss"
  Did.validate r.sub "from_prior.sub"
  if r.iss = r.sub then throw .issuerIsSubject

end Rotation

end DidMessaging

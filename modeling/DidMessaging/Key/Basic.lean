import DidMessaging.Error
import DidMessaging.Key.Jwk
import DidMessaging.Text.Radix

namespace DidMessaging

structure Key where
  id : String
  curve : Curve
  jwk : Jwk
deriving DecidableEq, Repr

def decodeBase64Url (text : String) : Result Bytes :=
  match Base64Url.decode? text with
  | some bytes => .ok bytes
  | none => .error (.malformed .base64Url)

def decodeBase64UrlJson (read? : Json.Tree → Option α) (text : String) : Result α := do
  let bytes ← decodeBase64Url text
  match (Json.Tree.readBytes? bytes).bind read? with
  | some a => .ok a
  | none => .error (.malformed .base64UrlJson)

namespace Key

def coordinate (id name encoded : String) : Result Bytes := do
  let bytes ← decodeBase64Url encoded
  if bytes.length = 32 then .ok bytes
  else .error (.crypto (.coordinateSize id name bytes.length))

def isPrivate (k : Key) : Bool := k.jwk.d.isSome

def toPublic (k : Key) : Key := { k with jwk := k.jwk.toPublic }

def x (k : Key) : Result Bytes := coordinate k.id "x" k.jwk.x

def y (k : Key) : Result Bytes :=
  match k.jwk.y with
  | some y => coordinate k.id "y" y
  | none => .error (.crypto (.noOrdinate k.id))

def d (k : Key) : Result Bytes :=
  match k.jwk.d with
  | some d => coordinate k.id "d" d
  | none => .error (.crypto (.notPrivate k.id))

/-- Mark and coordinates of a point with two of them. -/
def point (k : Key) : Result Bytes := do
  let x ← k.x
  let y ← k.y
  return 4 :: x ++ y

/-- Every coordinate that the curve needs can be decoded, and `d` if it is there. -/
def checkCoordinates (k : Key) : Result Unit := do
  let _ ← k.x
  if k.curve.planar then
    let _ ← k.y
  if k.isPrivate then
    let _ ← k.d

def ofJwk (id : String) (jwk : Jwk) : Result Key := do
  let some curve := Curve.named? jwk.crv | throw (.unsupported (.curve jwk.crv))
  if jwk.kty ≠ curve.keyType then
    throw (.crypto (.keyType id jwk.kty curve))
  let key : Key := { id, curve, jwk }
  key.checkCoordinates
  return key

def ofJson (id : String) (value : Json) : Result Key :=
  match Jwk.read? (.ofJson value) with
  | some jwk => ofJwk id jwk
  | none => .error (.crypto (.notJwk id))

def ofRaw (id : String) (curve : Curve) (raw : Bytes) : Result Key :=
  ofJwk id ⟨curve.keyType, curve.name, Base64Url.encode raw, none, none⟩

@[simp] theorem isPrivate_toPublic (k : Key) : k.toPublic.isPrivate = false := rfl

@[simp] theorem toPublic_toPublic (k : Key) : k.toPublic.toPublic = k.toPublic := rfl

end Key

end DidMessaging

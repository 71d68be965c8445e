import DidMessaging.Json.Printer
import DidMessaging.Key.Basic
import DidMessaging.Message.MediaType
import DidMessaging.Signature.Algorithm
import DidMessaging.Text.Split

namespace DidMessaging

/-! What is signed is the text of the header and of the payload as they stand in the envelope,
joined by a dot. -/

def signingInput (header payload : String) : String := header ++ "." ++ payload

namespace Key

def signInput (k : Key) (a : SignatureAlgorithm) (input : String) : Result Bytes := do
  a.sign (← k.d) (Utf8.encode input)

def verifyingBytes (k : Key) : Result Bytes :=
  if k.curve = .ed25519 then k.x else k.point

/-- Accepts only a signature of the algorithm that goes with the curve of the key. -/
def verifyInput (k : Key) (a : SignatureAlgorithm) (input : String) (signature : Bytes) :
    Result Unit := do
  if (← SignatureAlgorithm.ofCurve k.curve) ≠ a then
    throw (.malformed (.algorithmOfKey a.name k.curve k.id))
  let bytes ← k.verifyingBytes
  if ← a.verify bytes (Utf8.encode input) signature then return ()
  else throw (.malformed (.wrongSignature k.id))

end Key

structure Jws.Signature where
  header : String
  signature : String
  kid : String
deriving DecidableEq, Repr

structure Jws where
  payload : String
  signatures : List Jws.Signature
deriving DecidableEq, Repr

namespace Jws

structure Header where
  typ : String
  alg : String
deriving DecidableEq, Repr

namespace Header

def read? (t : Json.Tree) : Option Header := do
  let fields ← Json.Fields.read? ["typ", "alg"] 2 t
  let typ ← fields.required? "typ" (·.string?)
  let alg ← fields.required? "alg" (·.string?)
  return { typ, alg }

def json (h : Header) : Json := .object [("typ", .string h.typ), ("alg", .string h.alg)]

end Header

namespace Signature

def readKid? (t : Json.Tree) : Option String := do
  let fields ← Json.Fields.read? ["kid"] 1 t
  fields.required? "kid" (·.string?)

def read? (t : Json.Tree) : Option Signature := do
  let fields ← Json.Fields.read? ["protected", "signature", "header"] 3 t
  let header ← fields.required? "protected" (·.string?)
  let signature ← fields.required? "signature" (·.string?)
  let kid ← fields.required? "header" readKid?
  return { header, signature, kid }

def json (s : Signature) : Json :=
  .object [("protected", .string s.header), ("signature", .string s.signature),
    ("header", .object [("kid", .string s.kid)])]

def decodeHeader (s : Signature) : Result Header := decodeBase64UrlJson Header.read? s.header

def algorithm (s : Signature) : Result SignatureAlgorithm := do
  let header ← s.decodeHeader
  SignatureAlgorithm.ofName header.alg

end Signature

def read? (t : Json.Tree) : Option Jws := do
  let fields ← Json.Fields.read? ["payload", "signatures"] 2 t
  let payload ← fields.required? "payload" (·.string?)
  let signatures ← fields.required? "signatures" (·.list? Signature.read?)
  return { payload, signatures }

def json (j : Jws) : Json :=
  .object [("payload", .string j.payload), ("signatures", .array (j.signatures.map (·.json)))]

def text (j : Jws) : String := j.json.text

/-- Reads a received envelope; it has at least one signature. -/
def parse (text : String) : Result Jws :=
  match (Json.Tree.read? text).bind read? with
  | none => .error (.malformed .jws)
  | some j => if j.signatures.isEmpty then .error (.malformed .noSignatures) else .ok j

def decodePayload (j : Jws) : Result Bytes := decodeBase64Url j.payload

def sign (payload : Bytes) (key : Key) : Result Jws := do
  let a ← SignatureAlgorithm.ofCurve key.curve
  let header := Base64Url.encode (Utf8.encode (Header.json ⟨MediaType.signed.name, a.name⟩).text)
  let payload := Base64Url.encode payload
  let signature ← key.signInput a (signingInput header payload)
  return { payload, signatures := [⟨header, Base64Url.encode signature, key.id⟩] }

def verify (j : Jws) (s : Signature) (a : SignatureAlgorithm) (key : Key) : Result Unit := do
  let signature ← decodeBase64Url s.signature
  key.verifyInput a (signingInput s.header j.payload) signature

end Jws

structure CompactJws.Header where
  typ : String
  alg : String
  kid : String
deriving DecidableEq, Repr

structure CompactJws where
  header : CompactJws.Header
  /-- The first two parts as received. -/
  signed : String
  payload : String
  signature : Bytes
deriving DecidableEq, Repr

namespace CompactJws

namespace Header

def read? (t : Json.Tree) : Option Header := do
  let fields ← Json.Fields.read? ["typ", "alg", "kid"] 3 t
  let typ ← fields.required? "typ" (·.string?)
  let alg ← fields.required? "alg" (·.string?)
  let kid ← fields.required? "kid" (·.string?)
  return { typ, alg, kid }

def json (h : Header) : Json :=
  .object [("typ", .string h.typ), ("alg", .string h.alg), ("kid", .string h.kid)]

end Header

def parse (text : String) : Result CompactJws :=
  match (splitAt '.' text.toList).map String.ofList with
  | [header, payload, signature] => do
    let decoded ← decodeBase64UrlJson Header.read? header
    let signature ← decodeBase64Url signature
    return { header := decoded, signed := signingInput header payload, payload, signature }
  | _ => .error (.malformed .compactParts)

def decodePayload (j : CompactJws) : Result Bytes := decodeBase64Url j.payload

def sign (payload : Bytes) (key : Key) (typ : String) : Result String := do
  let a ← SignatureAlgorithm.ofCurve key.curve
  let header := Base64Url.encode (Utf8.encode (Header.json ⟨typ, a.name, key.id⟩).text)
  let input := signingInput header (Base64Url.encode payload)
  let signature ← key.signInput a input
  return signingInput input (Base64Url.encode signature)

def verify (j : CompactJws) (key : Key) : Result Unit := do
  let a ← SignatureAlgorithm.ofName j.header.alg
  key.verifyInput a j.signed j.signature

end CompactJws

end DidMessaging

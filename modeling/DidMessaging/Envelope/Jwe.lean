import DidMessaging.Envelope.Algorithm
import DidMessaging.Hash.Sha2
import DidMessaging.Json.Printer
import DidMessaging.Key.Basic
import DidMessaging.Text.Order

namespace DidMessaging

/-! One content, and its key once for each recipient. The header commits to the recipients (`apv`)
and, where there is one, to the sender (`apu`). -/

structure Jwe.Recipient where
  kid : String
  encryptedKey : String
deriving DecidableEq, Repr

structure Jwe where
  /-- The protected header as received: the content is bound to this text. -/
  header : String
  recipients : List Jwe.Recipient
  iv : String
  ciphertext : String
  tag : String
deriving DecidableEq, Repr

namespace Jwe

structure Header where
  typ : Option String
  alg : String
  enc : String
  skid : Option String
  apu : Option String
  apv : String
  epk : Jwk
deriving DecidableEq, Repr

namespace Header

def fieldNames : List String := ["typ", "alg", "enc", "skid", "apu", "apv", "epk"]

def read? (t : Json.Tree) : Option Header := do
  let fields ← Json.Fields.read? fieldNames 7 t
  let typ ← fields.optional? "typ" (·.string?)
  let alg ← fields.required? "alg" (·.string?)
  let enc ← fields.required? "enc" (·.string?)
  let skid ← fields.optional? "skid" (·.string?)
  let apu ← fields.optional? "apu" (·.string?)
  let apv ← fields.required? "apv" (·.string?)
  let epk ← fields.required? "epk" Jwk.read?
  return { typ, alg, enc, skid, apu, apv, epk }

def json (h : Header) : Json :=
  .object (Json.optional "typ" .string h.typ ++ [("alg", .string h.alg), ("enc", .string h.enc)]
    ++ Json.optional "skid" .string h.skid ++ Json.optional "apu" .string h.apu
    ++ [("apv", .string h.apv), ("epk", h.epk.json)])

end Header

namespace Recipient

def readKid? (t : Json.Tree) : Option String := do
  let fields ← Json.Fields.read? ["kid"] 1 t
  fields.required? "kid" (·.string?)

def read? (t : Json.Tree) : Option Recipient := do
  let fields ← Json.Fields.read? ["header", "encrypted_key"] 2 t
  let kid ← fields.required? "header" readKid?
  let encryptedKey ← fields.required? "encrypted_key" (·.string?)
  return { kid, encryptedKey }

def json (r : Recipient) : Json :=
  .object [("header", .object [("kid", .string r.kid)]), ("encrypted_key", .string r.encryptedKey)]

end Recipient

def fieldNames : List String := ["protected", "recipients", "iv", "ciphertext", "tag"]

def read? (t : Json.Tree) : Option Jwe := do
  let fields ← Json.Fields.read? fieldNames 5 t
  let header ← fields.required? "protected" (·.string?)
  let recipients ← fields.required? "recipients" (·.list? Recipient.read?)
  let iv ← fields.required? "iv" (·.string?)
  let ciphertext ← fields.required? "ciphertext" (·.string?)
  let tag ← fields.required? "tag" (·.string?)
  return { header, recipients, iv, ciphertext, tag }

def json (j : Jwe) : Json :=
  .object [("protected", .string j.header), ("recipients", .array (j.recipients.map (·.json))),
    ("iv", .string j.iv), ("ciphertext", .string j.ciphertext), ("tag", .string j.tag)]

def text (j : Jwe) : String := j.json.text

/-- What `apv` is the hash of: the kids in order, joined by dots. -/
def recipientsText (kids : List String) : String := ".".intercalate (sortTexts kids)

def recipientsHash (kids : List String) : String :=
  Base64Url.encode (sha256 (Utf8.encode (recipientsText kids)))

structure Received where
  jwe : Jwe
  header : Header
  apu : Option Bytes
  apv : Bytes
deriving DecidableEq, Repr

/-- Reads a received envelope; it has at least one recipient. -/
def parse (text : String) : Result Received := do
  let some jwe := (Json.Tree.read? text).bind read? | throw (.malformed .jwe)
  if jwe.recipients.isEmpty then throw (.malformed .noRecipients)
  let header ← decodeBase64UrlJson Header.read? jwe.header
  let apu ← header.apu.mapM decodeBase64Url
  let apv ← decodeBase64Url header.apv
  return { jwe, header, apu, apv }

namespace Received

def kids (r : Received) : List String := r.jwe.recipients.map (·.kid)

def algorithm (r : Received) : Result EnvelopeAlgorithm :=
  EnvelopeAlgorithm.ofHeader r.header.alg r.header.enc

/-- The header has to commit to exactly the recipients listed. -/
def checkRecipients (r : Received) : Result Unit :=
  if recipientsHash r.kids = r.header.apv then .ok () else .error (.malformed .recipientsHash)

/-- The kid of the sender: `apu` in clear. `skid` may be missing, but must not say otherwise, and
without `apu` it stands alone. -/
def sender (r : Received) : Result String := do
  match r.apu with
  | some apu =>
    let some named := Utf8.decode? apu | throw (.malformed .senderNotText)
    match r.header.skid with
    | some skid => if skid = named then return skid else throw (.malformed .senderMismatch)
    | none => return named
  | none =>
    match r.header.skid with
    | some skid => return skid
    | none => throw (.malformed .noSender)

/-- The envelope with the sender that was made out written into its header. -/
def withSender (r : Received) : Result Received := do
  let kid ← r.sender
  return { r with header := { r.header with skid := some kid } }

end Received

end Jwe

end DidMessaging

import DidMessaging.Cipher.Content
import DidMessaging.Cipher.KeyWrap
import DidMessaging.Envelope.Jwe
import DidMessaging.Key.Agreement
import DidMessaging.Key.Derivation
import DidMessaging.Message.MediaType

namespace DidMessaging.Jwe

/-! The content is encrypted once; its key is wrapped for each recipient with a key that both sides
derive from a shared secret and from the header. With a sender the wrapping key depends on the tag
of the content as well. -/

structure Fresh where
  ephemeral : Key
  contentKey : Bytes
  iv : Bytes

def fresh (curve : Curve) (enc : ContentAlgorithm) : Draw Fresh := do
  let ephemeral ← Key.ephemeral curve
  let contentKey ← Entropy.bytes enc.keySize
  let iv ← Entropy.bytes enc.ivSize
  return { ephemeral, contentKey, iv }

def commonCurve (sender : Option Key) (recipients : List Key) : Result Curve := do
  let some first := recipients.head? | throw (.illegal .noRecipientKeys)
  match (recipients ++ sender.toList).find? (·.curve ≠ first.curve) with
  | some other => throw (.incompatible (.otherCurve other.id first.curve))
  | none => return first.curve

def headerFor (alg : String) (enc : ContentAlgorithm) (sender : Option Key) (recipients : List Key)
    (ephemeral : Key) : Header where
  typ := some MediaType.encrypted.name
  alg
  enc := enc.name
  skid := sender.map (·.id)
  apu := sender.map fun key => Base64Url.encode (Utf8.encode key.id)
  apv := recipientsHash (recipients.map (·.id))
  epk := ephemeral.jwk.toPublic

def sharedBySender (ephemeral : Key) (sender : Option Key) (recipient : Key) : Result Bytes := do
  let z ← ephemeral.agree recipient
  match sender with
  | some sender => return z ++ (← sender.agree recipient)
  | none => return z

def wrapFor (f : Fresh) (alg : String) (sender : Option Key) (apv tag : Bytes) (recipient : Key) :
    Result Recipient := do
  let z ← sharedBySender f.ephemeral sender recipient
  let key ← KeyDerivation.wrappingKey z alg (sender.map fun key => Utf8.encode key.id) (some apv)
    (sender.map fun _ => tag)
  let wrapped ← KeyWrap.wrap key f.contentKey
  return { kid := recipient.id, encryptedKey := Base64Url.encode wrapped }

def assemble (f : Fresh) (payload : Bytes) (alg : String) (enc : ContentAlgorithm)
    (sender : Option Key) (recipients : List Key) : Result Jwe := do
  let header := headerFor alg enc sender recipients f.ephemeral
  let text := Base64Url.encode (Utf8.encode header.json.text)
  let sealed ← enc.encrypt f.iv f.contentKey payload (Utf8.encode text)
  let (ciphertext, tag) := sealed.splitAt (sealed.length - enc.tagSize)
  let apv ← decodeBase64Url header.apv
  let wrapped ← recipients.mapM (wrapFor f alg sender apv tag)
  return {
    header := text
    recipients := wrapped
    iv := Base64Url.encode f.iv
    ciphertext := Base64Url.encode ciphertext
    tag := Base64Url.encode tag }

def encrypt (payload : Bytes) (alg : String) (enc : ContentAlgorithm) (sender : Option Key)
    (recipients : List Key) : Draw Jwe := do
  let curve ← commonCurve sender recipients
  let f ← fresh curve enc
  assemble f payload alg enc sender recipients

def anoncrypt (payload : Bytes) (a : AnonAlgorithm) (recipients : List Key) : Draw Jwe :=
  encrypt payload AnonAlgorithm.agreement a.content none recipients

def authcrypt (payload : Bytes) (a : AuthAlgorithm) (sender : Key) (recipients : List Key) :
    Draw Jwe :=
  encrypt payload AuthAlgorithm.agreement a.content (some sender) recipients

namespace Received

def ephemeral (r : Received) : Result Key :=
  match Key.ofJwk "epk" r.header.epk with
  | .ok key => .ok key
  | .error e => .error (.malformed (.ephemeralKey e))

/-- The secret that the recipient shares with the drawn key; that they do not fit is the fault of
the message. -/
def sharedByRecipient (recipient ephemeral : Key) : Result Bytes :=
  match recipient.agree ephemeral with
  | .error (.incompatible cause) => .error (.malformed (.agreement cause))
  | answer => answer

def secret (recipient ephemeral : Key) (sender : Option Key) : Result Bytes := do
  let z ← sharedByRecipient recipient ephemeral
  match sender with
  | some sender => return z ++ (← recipient.agree sender)
  | none => return z

def contentAlgorithm (r : Received) : Result ContentAlgorithm :=
  match ContentAlgorithm.named? r.header.enc with
  | some a => .ok a
  | none => .error (.malformed (.contentAlgorithm r.header.enc))

def entry (r : Received) (kid : String) : Result Recipient :=
  match r.jwe.recipients.find? (·.kid = kid) with
  | some entry => .ok entry
  | none => .error (.malformed (.noEntry kid))

def decrypt (r : Received) (sender : Option Key) (recipient : Key) : Result Bytes := do
  let entry ← r.entry recipient.id
  let enc ← r.contentAlgorithm
  let ephemeral ← r.ephemeral
  let tag ← decodeBase64Url r.jwe.tag
  let z ← secret recipient ephemeral sender
  let key ← KeyDerivation.wrappingKey z r.header.alg r.apu (some r.apv) (sender.map fun _ => tag)
  let wrapped ← decodeBase64Url entry.encryptedKey
  let contentKey ← KeyWrap.unwrap key wrapped
  let ciphertext ← decodeBase64Url r.jwe.ciphertext
  let iv ← decodeBase64Url r.jwe.iv
  enc.decrypt iv contentKey (ciphertext ++ tag) (Utf8.encode r.jwe.header)

/-- Decrypts with every key; all must come to the payload that was found before, if there is one. -/
def decryptAll (r : Received) (sender : Option Key) : (found : Option Bytes) → List Key →
    Result (Option Bytes)
  | found, [] => .ok found
  | found, key :: keys => do
    let payload ← r.decrypt sender key
    if found.any (· ≠ payload) then throw (.malformed .differentPayloads)
    decryptAll r sender (some payload) keys

/-- The payload by the first key that decrypts, and the id of that key; else the last failure. -/
def decryptFirst (r : Received) (sender : Option Key) : (failure : Error) → List Key →
    Result (Bytes × String)
  | failure, [] => .error failure
  | _, key :: keys =>
    match r.decrypt sender key with
    | .ok payload => .ok (payload, key.id)
    | .error failure => decryptFirst r sender failure keys

/-- Decrypts with the keys in their order: with all of them, or with one. Also the ids of the keys
that did it. -/
def decryptBy (r : Received) (sender : Option Key) (keys : List Key) (all : Bool) :
    Result (Bytes × List String) := do
  if all then
    match ← r.decryptAll sender none keys with
    | some payload => return (payload, keys.map (·.id))
    | none => throw (.malformed .noKeys)
  else
    let (payload, kid) ← r.decryptFirst sender (.malformed .noKeys) keys
    return (payload, [kid])

/-- Decrypts an envelope that must name no sender. -/
def anonDecrypt (r : Received) (keys : List Key) (all : Bool) : Result (Bytes × List String) := do
  if r.header.skid.isSome || r.header.apu.isSome then throw (.malformed .anonymousWithSender)
  r.checkRecipients
  r.decryptBy none keys all

def authDecrypt (r : Received) (sender : Key) (keys : List Key) (all : Bool) :
    Result (Bytes × List String) := do
  if r.header.skid ≠ some sender.id then throw (.malformed (.otherSender sender.id))
  r.checkRecipients
  r.decryptBy (some sender) keys all

end Received

end DidMessaging.Jwe

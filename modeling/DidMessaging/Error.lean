import DidMessaging.Cipher.Algorithm
import DidMessaging.Curve
import DidMessaging.Text.Quoted

namespace DidMessaging

/-! The kinds keep apart what a received message is to blame for (`malformed`) and what the caller
or the environment is; each kind has its causes, and `message` words them. -/

inductive Illegal
  | notDidOrDidUrl (value : String)
  | notDid (what value : String)
  | notDidOrDidUrlIn (what value : String)
  | mediaType
  | bodyNotObject
  | reservedHeader (name : String)
  | subjectNotSender
  | issuerIsSubject
  | issuerKey (kid issuer : String)
  | noRecipientKeys
  | recipientNotListed (did : String)
  | senderNotFrom (did : String)
  | signerNotFrom (did : String)
deriving DecidableEq, Repr

namespace Illegal

def text : Illegal → String
  | .notDidOrDidUrl value => s!"'{value}' is not a DID or DID URL"
  | .notDid what value => s!"`{what}` value is not a DID: '{value}'"
  | .notDidOrDidUrlIn what value => s!"`{what}` value is not a DID or DID URL: '{value}'"
  | .mediaType => "`typ` must be application/didcomm-plain+json"
  | .bodyNotObject => "`body` must be a JSON object"
  | .reservedHeader name => s!"extra header '{name}' collides with a reserved header"
  | .subjectNotSender => "from_prior `sub` value is not equal to message `from` value"
  | .issuerIsSubject => "from_prior `iss` and `sub` values must not be equal"
  | .issuerKey kid issuer => s!"from_prior issuer kid '{kid}' is not a key of '{issuer}'"
  | .noRecipientKeys => "no recipient keys to encrypt for"
  | .recipientNotListed did => s!"`message.to` value does not contain `to` DID '{did}'"
  | .senderNotFrom did => s!"`message.from` value is not equal to `from` DID '{did}'"
  | .signerNotFrom did => s!"`message.from` value is not equal to `sign_by` DID '{did}'"

end Illegal

inductive Incompatible
  | keys (privateCurve : Curve) (privateKid : String) (publicCurve : Curve) (publicKid : String)
  | noCommonCurve (sender recipient : String)
  | noRecipientOn (curve : Curve) (kid : String)
  | otherCurve (kid : String) (curve : Curve)
deriving DecidableEq, Repr

namespace Incompatible

def text : Incompatible → String
  | .keys c₁ k₁ c₂ k₂ =>
    s!"can't agree on a key between {c₁.name} key '{k₁}' and {c₂.name} key '{k₂}'"
  | .noCommonCurve sender recipient =>
    s!"no common key agreement curve between '{sender}' and '{recipient}'"
  | .noRecipientOn curve kid =>
    s!"no recipient secrets on curve {curve.name} of sender key '{kid}'"
  | .otherCurve kid curve => s!"key '{kid}' is not on curve {curve.name}"

end Incompatible

inductive Unsupported
  | curve (name : String)
  | agreement (curve : Curve)
  | signing (curve : Curve)
  | resolving (did : String)
deriving DecidableEq, Repr

namespace Unsupported

def text : Unsupported → String
  | .curve name => s!"curve '{name}'"
  | .agreement c => s!"key agreement over {c.name}"
  | .signing c => s!"signing with {c.name} keys"
  | .resolving did => s!"resolving {did}"

end Unsupported

inductive CryptoFault
  | derivationSize
  | wrappingKeySize (size : Nat)
  | wrappedSize
  | contentKeySize (algorithm : ContentAlgorithm) (size : Nat)
  | scalar
  | point (curve : Curve) (kid : String)
  | nonContributory (kid : String)
  | signingKeySize
  | verifyingKeySize
  | signature
  | notOnEdwardsCurve
  | noPrivatePart (secret : String)
  | keyType (kid keyType : String) (curve : Curve)
  | notJwk (kid : String)
  | noOrdinate (kid : String)
  | notPrivate (kid : String)
  | coordinateSize (kid coordinate : String) (size : Nat)
  | base58
  | multibase
  | multicodec (code : UInt8)
deriving DecidableEq, Repr

namespace CryptoFault

def octet (b : UInt8) : String :=
  String.ofList [Nat.digitChar (b.toNat / 16), Nat.digitChar (b.toNat % 16)]

def wrappedSizeRule : String :=
  "data must be a multiple of 64 bits for AES-KW and less than 2^32 bytes for AES-KWP"

def text : CryptoFault → String
  | .derivationSize => "out of range integral type conversion attempted"
  | .wrappingKeySize size => s!"invalid AES KEK size: {size}"
  | .wrappedSize => wrappedSizeRule
  | .contentKeySize a size => s!"{a.name} requires {a.keySize} byte key, got {size}"
  | .scalar => "crypto error"
  | .point curve kid => s!"invalid {curve.name} key '{kid}': crypto error"
  | .nonContributory kid => s!"non contributory X25519 agreement with '{kid}'"
  | .signingKeySize => "Ed25519 private key must be 32 bytes"
  | .verifyingKeySize => "Ed25519 public key must be 32 bytes"
  | .signature => "signature error"
  | .notOnEdwardsCurve => "signature error: Cannot decompress Edwards point"
  | .noPrivatePart secret => s!"secret '{secret}' has no private key part"
  | .keyType kid kty curve => s!"key '{kid}': kty '{kty}' does not match curve {curve.name}"
  | .notJwk kid => s!"key '{kid}' is not a valid JWK"
  | .noOrdinate kid => s!"key '{kid}' has no 'y' coordinate"
  | .notPrivate kid => s!"key '{kid}' is not private"
  | .coordinateSize kid c size => s!"key '{kid}': '{c}' must be 32 bytes, got {size}"
  | .base58 => "invalid base58 key material"
  | .multibase => "invalid multibase key material"
  | .multicodec code => s!"multicodec prefix [{octet code}, 01] expected"

end CryptoFault

inductive ServiceFault
  | notFound (id : String)
  | profile (id : String)
  | noMediatorService
  | mediatorOfMediator
  | noRoutingKeys
deriving DecidableEq, Repr

namespace ServiceFault

def text : ServiceFault → String
  | .notFound id => s!"service '{id}' not found"
  | .profile id => s!"service '{id}' does not accept didcomm/v2 profile"
  | .noMediatorService => "mediator has no DIDComm service"
  | .mediatorOfMediator => "mediator defines alternative endpoint recursively"
  | .noRoutingKeys => "no routing keys found for mediated service"

end ServiceFault

inductive MissingSecret
  | named (id : String)
  | agreementOf (did : String)
  | noneOf (kids : List String)
deriving DecidableEq, Repr

namespace MissingSecret

def text : MissingSecret → String
  | .named id => id
  | .agreementOf did => s!"no key agreement secrets for '{did}'"
  | .noneOf kids => "none of " ++ Quoted.list kids

end MissingSecret

inductive DocumentFault
  | noAuthentication (did : String)
  | noKeyAgreement (did : String)
deriving DecidableEq, Repr

namespace DocumentFault

def text : DocumentFault → String
  | .noAuthentication did => s!"no authentication verification methods in '{did}'"
  | .noKeyAgreement did => s!"no key agreement verification methods in '{did}'"

end DocumentFault

mutual

inductive Malformed
  | base64Url
  | base64UrlJson
  | notJson
  | notJsonObject
  | jwe
  | noRecipients
  | jws
  | noSignatures
  | compactParts
  | rotationNotJwt
  | plaintext
  | claims
  | illegalClaims (cause : Illegal)
  | issuer (kid issuer : String)
  | wrappedSize
  | wrappedIntegrity
  | ivSize (algorithm : ContentAlgorithm) (size : Nat)
  | ciphertextSize
  | tagMismatch
  | padding
  | content
  | contentAlgorithm (name : String)
  | signatureAlgorithm (name : String)
  | algorithms (alg enc : String)
  | algorithmOfKey (alg : String) (curve : Curve) (kid : String)
  | wrongSignature (kid : String)
  | recipientsHash
  | senderNotText
  | senderMismatch
  | noSender
  | noEntry (kid : String)
  | ephemeralKey (cause : Error)
  | agreement (cause : Incompatible)
  | differentPayloads
  | noKeys
  | anonymousWithSender
  | otherSender (kid : String)
  | signerNotDidUrl (kid : String)
  | senderNotDidUrl (kid : String)
  | forwardNotAnoncrypted
  | forwardNotPlaintext
  | notForward (id : String)
  | payloadNotText
  | anoncryptInside
  | authcryptInside
  | signedNotPlaintext
  | subjectNotSender
  | encryptedBy (kid : String)
  | signedBy (kid : String)
deriving DecidableEq, Repr

inductive Error
  | malformed (cause : Malformed)
  | document (cause : DocumentFault)
  | didUrlNotFound (url : String)
  | didNotResolved (did : String)
  | secretNotFound (cause : MissingSecret)
  | incompatible (cause : Incompatible)
  | methodType (type : String)
  | methodFormat (format type : String)
  | secretType (type : String)
  | secretFormat (format type : String)
  | unsupported (cause : Unsupported)
  | illegal (cause : Illegal)
  | service (did : String) (cause : ServiceFault)
  | crypto (cause : CryptoFault)
  /-- A text that should be JSON is not, or has not the expected form. -/
  | json
deriving DecidableEq, Repr

end

mutual

def Malformed.text : Malformed → String
  | .base64Url => "invalid base64url value"
  | .base64UrlJson => "invalid base64url encoded JSON"
  | .notJson => "message is not JSON"
  | .notJsonObject => "message is not a JSON object"
  | .jwe => "unable to parse JWE"
  | .noRecipients => "JWE has no recipients"
  | .jws => "unable to parse JWS"
  | .noSignatures => "JWS has no signatures"
  | .compactParts => "compact JWS must have 3 parts"
  | .rotationNotJwt => "from_prior must be a signed JWT"
  | .plaintext => "unable to parse plaintext message"
  | .claims => "invalid from_prior claims"
  | .illegalClaims cause => s!"invalid from_prior claims: illegal argument: {cause.text}"
  | .issuer kid issuer => s!"from_prior signed by '{kid}' which is not a key of issuer '{issuer}'"
  | .wrappedSize => s!"unable to unwrap content encryption key: {CryptoFault.wrappedSizeRule}"
  | .wrappedIntegrity => "unable to unwrap content encryption key: integrity check failed"
  | .ivSize a size => s!"{a.name} requires {a.ivSize} byte iv, got {size}"
  | .ciphertextSize => "ciphertext is too short"
  | .tagMismatch => "authentication tag mismatch"
  | .padding => "invalid content padding"
  | .content => "unable to decrypt content"
  | .contentAlgorithm name => s!"unsupported 'enc' value '{name}'"
  | .signatureAlgorithm name => s!"unsupported signature 'alg' value '{name}'"
  | .algorithms alg enc => s!"unsupported encryption algorithm alg='{alg}' enc='{enc}'"
  | .algorithmOfKey alg curve kid =>
    s!"signature algorithm {alg} does not match {curve.name} key '{kid}'"
  | .wrongSignature kid => s!"wrong signature by '{kid}'"
  | .recipientsHash => "apv is invalid"
  | .senderNotText => "apu is not a valid UTF-8 string"
  | .senderMismatch => "apu is not equal to skid"
  | .noSender => "sender key id is not set"
  | .noEntry kid => s!"no recipient entry for '{kid}'"
  | .ephemeralKey cause => s!"invalid epk: {cause.message}"
  | .agreement cause => cause.text
  | .differentPayloads => "recipients decrypted to different payloads"
  | .noKeys => "no keys to decrypt the message"
  | .anonymousWithSender => "anoncrypt message must not identify the sender"
  | .otherSender kid => s!"sender key '{kid}' is not the one named by skid"
  | .signerNotDidUrl kid => s!"signer kid '{kid}' is not a DID URL"
  | .senderNotDidUrl kid => s!"skid '{kid}' is not a DID URL"
  | .forwardNotAnoncrypted => "forward message must be anoncrypted"
  | .forwardNotPlaintext => "forward payload must be a plaintext message"
  | .notForward id => s!"message {id} is not a valid forward"
  | .payloadNotText => "payload is not UTF-8"
  | .anoncryptInside => "anoncrypt must be the outermost envelope"
  | .authcryptInside => "authcrypt can be wrapped only by anoncrypt"
  | .signedNotPlaintext => "signed payload must be a plaintext message"
  | .subjectNotSender => "from_prior `sub` value is not equal to message `from` value"
  | .encryptedBy kid => s!"message is encrypted by '{kid}' which does not belong to `from`"
  | .signedBy kid => s!"message is signed by '{kid}' which does not belong to `from`"

/-- The wording of an error; `json` has none of its own. -/
def Error.message : Error → String
  | .malformed cause => s!"malformed message: {cause.text}"
  | .document cause => s!"DID Doc error: {cause.text}"
  | .didUrlNotFound url => s!"DID URL not found: {url}"
  | .didNotResolved did => s!"DID '{did}' is not resolved"
  | .secretNotFound cause => s!"secret '{cause.text}' is not found"
  | .incompatible cause => s!"incompatible crypto: {cause.text}"
  | .methodType type => s!"unsupported verification method type: {type}"
  | .methodFormat format type =>
    s!"unsupported material format '{format}' for verification method type '{type}'"
  | .secretType type => s!"unsupported secret type: {type}"
  | .secretFormat format type =>
    s!"unsupported material format '{format}' for secret type '{type}'"
  | .unsupported cause => s!"unsupported: {cause.text}"
  | .illegal cause => s!"illegal argument: {cause.text}"
  | .service did cause => s!"DIDComm service error for '{did}': {cause.text}"
  | .crypto cause => s!"cryptography failure: {cause.text}"
  | .json => ""

end

def Error.isMalformed : Error → Bool
  | .malformed _ => true
  | _ => false

abbrev Result := Except Error

def Result.ofCheck (check : Except Illegal α) : Result α :=
  check.mapError .illegal

end DidMessaging

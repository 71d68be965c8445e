import DidMessaging.Did.Directory
import DidMessaging.Did.Url

namespace DidMessaging.Agent

/-! Sending. -/

/-- The id of the key to sign with. A DID stands for the first of its authentication keys that the
agent holds. -/
def signingKid (a : Agent) (signer : String) : Result String := do
  let doc ← a.directory.document (Did.ofUrl signer)
  if Did.isUrl signer then
    let _ ← doc.method signer
    return signer
  else
    if doc.authentication.isEmpty then throw (.document (.noAuthentication signer))
    match (a.keyring.held doc.authentication).head? with
    | some kid => return kid
    | none => throw (.secretNotFound (.named signer))

def signingKey (a : Agent) (signer : String) : Result Key := do
  a.keyring.key (← a.signingKid signer)

/-- The keys that a message may be encrypted for: all of a DID, or the one that a DID URL names. -/
def recipientKeys (a : Agent) (recipient : String) : Result (List Key) := do
  let doc ← a.directory.document (Did.ofUrl recipient)
  if Did.isUrl recipient then
    if !doc.keyAgreement.contains recipient then throw (.didUrlNotFound recipient)
    return [← Key.ofMethod (← doc.method recipient)]
  else
    if doc.keyAgreement.isEmpty then throw (.document (.noKeyAgreement recipient))
    let methods ← doc.agreementMethods
    methods.mapM Key.ofMethod

def senderKids (a : Agent) (doc : Document) (sender : String) : Result (List String) :=
  if Did.isUrl sender then
    if doc.keyAgreement.contains sender then .ok [sender] else .error (.didUrlNotFound sender)
  else
    let held := a.keyring.held doc.keyAgreement
    if held.isEmpty then .error (.secretNotFound (.agreementOf sender)) else .ok held

def onCurve (curve : Curve) (keys : List Key) : List Key :=
  keys.filter (·.curve = curve)

/-- The first sender key on whose curve there are recipient keys, and these. -/
def firstCompatible (a : Agent) (recipients : List Key) :
    List String → Result (Option (Key × List Key))
  | [] => .ok none
  | kid :: kids => do
    let key ← a.keyring.key kid
    let compatible := onCurve key.curve recipients
    if compatible.isEmpty then a.firstCompatible recipients kids else return some (key, compatible)

def authcryptKeys (a : Agent) (sender recipient : String) : Result (Key × List Key) := do
  let doc ← a.directory.document (Did.ofUrl sender)
  let recipients ← a.recipientKeys recipient
  let kids ← a.senderKids doc sender
  match ← a.firstCompatible recipients kids with
  | some found => return found
  | none => throw (.incompatible (.noCommonCurve sender recipient))

/-- The keys of the recipient on the curve of the first of them. -/
def anoncryptKeys (a : Agent) (recipient : String) : Result (List Key) := do
  match ← a.recipientKeys recipient with
  | [] => return []
  | key :: keys => return onCurve key.curve (key :: keys)

/-! Receiving. -/

def verificationKey (a : Agent) (kid : String) : Result Key := do
  if !Did.isUrl kid then throw (.malformed (.signerNotDidUrl kid))
  let doc ← a.directory.document (Did.ofUrl kid)
  Key.ofMethod (← doc.method kid)

def heldKeys (a : Agent) (kids : List String) : Result (List Key) :=
  let held := a.keyring.held kids
  if held.isEmpty then .error (.secretNotFound (.noneOf kids)) else held.mapM a.keyring.key

def authDecryptKeys (a : Agent) (sender : String) (kids : List String) :
    Result (Key × List Key) := do
  if !Did.isUrl sender then throw (.malformed (.senderNotDidUrl sender))
  let doc ← a.directory.document (Did.ofUrl sender)
  let key ← Key.ofMethod (← doc.method sender)
  let recipients := onCurve key.curve (← a.heldKeys kids)
  if recipients.isEmpty then throw (.incompatible (.noRecipientOn key.curve sender))
  return (key, recipients)

/-- Whether the agent holds a key of the one whom a message is to be forwarded to. -/
def isNext (a : Agent) (next : String) : Result Bool := do
  if Did.isUrl next then return !(a.keyring.held [next]).isEmpty
  match ← a.directory.resolve next with
  | some doc => return !(a.keyring.held doc.keyAgreement).isEmpty
  | none => return false

end DidMessaging.Agent

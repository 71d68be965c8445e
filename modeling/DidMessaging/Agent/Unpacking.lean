import DidMessaging.Agent.Forward
import DidMessaging.Agent.Rotation

namespace DidMessaging

/-! Envelopes are removed one after the other; what was removed stands in a list of layers,
outermost first, and the metadata of the message are read off that list. -/

/-- A received text, by the members that its kind alone has. -/
inductive Envelope
  | encrypted (r : Jwe.Received)
  | signed (j : Jws)
  | plain (value : Json)

def Envelope.ofText (text : String) : Result Envelope := do
  let some value := Json.read? text | throw (.malformed .notJson)
  let .object members := value | throw (.malformed .notJsonObject)
  if (Members.names members).contains "recipients" then return .encrypted (← Jwe.parse text)
  else if (Members.names members).contains "signatures" then return .signed (← Jws.parse text)
  else return .plain value

structure UnpackOptions where
  /-- Every key that the agent holds must decrypt the message. -/
  allKeys : Bool := false
  unwrapForward : Bool := true

/-- An encrypted envelope that was opened: with which keys, and what was in it. -/
structure Opened where
  envelope : Jwe.Received
  sender : Option Key
  keys : List Key
  payload : Bytes

/-- The ids of the keys that the agent holds, whichever of them decrypted. -/
def Opened.kids (o : Opened) : List String := o.keys.map (·.id)

inductive Layer
  /-- Encrypted without a sender, around a forward message to the agent itself. -/
  | forward (a : AnonAlgorithm) (o : Opened)
  | anon (a : AnonAlgorithm) (o : Opened)
  | auth (a : AuthAlgorithm) (sender : String) (o : Opened)
  /-- A signed text, and who signed it with which algorithm. -/
  | signed (text : String) (j : Jws) (signers : List (String × SignatureAlgorithm))

/-- What was removed last. -/
inductive Outer
  | nothing
  | anon
  | auth
deriving DecidableEq, Repr

structure Metadata where
  encrypted : Bool := false
  authenticated : Bool := false
  nonRepudiation : Bool := false
  anonymousSender : Bool := false
  reWrapped : Bool := false
  encryptedTo : Option (List String) := none
  encryptedFrom : Option String := none
  signFrom : Option String := none
  rotationKid : Option String := none
  authAlgorithm : Option AuthAlgorithm := none
  anonAlgorithm : Option AnonAlgorithm := none
  signAlgorithm : Option SignatureAlgorithm := none
  signedText : Option String := none
  rotationJwt : Option String := none
deriving DecidableEq, Repr

namespace Metadata

/-- What a layer adds; after a forward message all begins anew. -/
def add (d : Metadata) : Layer → Metadata
  | .forward _ _ => { reWrapped := true }
  | .anon a o =>
    { d with
      encrypted := true
      anonymousSender := true
      anonAlgorithm := some a
      encryptedTo := some o.kids }
  | .auth a sender o =>
    { d with
      encrypted := true
      authenticated := true
      authAlgorithm := some a
      encryptedFrom := some sender
      encryptedTo := some o.kids }
  | .signed text _ signers =>
    { d with
      authenticated := true
      nonRepudiation := true
      signFrom := signers.head?.map Prod.fst
      signAlgorithm := signers.head?.map Prod.snd
      signedText := some text }

def ofLayers (layers : List Layer) : Metadata := layers.foldl add {}

end Metadata

/-- A message without its envelopes, whose rotation is still to be proved. -/
structure Unwrapped where
  layers : List Layer
  message : Message
  proof : Option String

structure Unpacked where
  message : Message
  metadata : Metadata

structure UnpackedForward where
  message : Message
  next : String
  carried : String
  kids : List String

def payloadText (payload : Bytes) : Result String :=
  match Utf8.decode? payload with
  | some text => .ok text
  | none => .error (.malformed .payloadNotText)

namespace Agent

def openAnon (a : Agent) (all : Bool) (outer : Outer) (r : Jwe.Received) : Result Opened := do
  if outer ≠ .nothing then throw (.malformed .anoncryptInside)
  let keys ← a.heldKeys r.kids
  let (payload, _) ← r.anonDecrypt keys all
  return { envelope := r, sender := none, keys, payload }

/-- Opens an envelope from a sender; also the id of the sender's key. -/
def openAuth (a : Agent) (all : Bool) (outer : Outer) (r : Jwe.Received) :
    Result (String × Opened) := do
  if outer = .auth then throw (.malformed .authcryptInside)
  let r ← r.withSender
  let sender ← r.sender
  let (key, keys) ← a.authDecryptKeys sender r.kids
  let (payload, _) ← r.authDecrypt key keys all
  return (sender, { envelope := r, sender := some key, keys, payload })

/-- Checks every signature; the signers in their order. -/
def checkSignatures (a : Agent) (j : Jws) : Result (List (String × SignatureAlgorithm)) :=
  j.signatures.mapM fun s => do
    let algorithm ← s.algorithm
    let key ← a.verificationKey s.kid
    j.verify s algorithm key
    return (key.id, algorithm)

def openSigned (j : Jws) : Result (Message × Option String) := do
  let text ← payloadText (← j.decodePayload)
  match ← Envelope.ofText text with
  | .plain value => Message.ofWire value
  | _ => throw (.malformed .signedNotPlaintext)

/-- The message carried by a forward message to the agent itself, if the text is one. -/
def carriedToUs? (a : Agent) (text : String) : Result (Option String) := do
  match ← Envelope.ofText text with
  | .plain value =>
    let (m, _) ← Message.ofWire value
    match Forward.ofMessage? m with
    | some f => if ← a.isNext f.next then return some f.carried.text else return none
    | none => return none
  | _ => return none

/-- The same, where the options ask for it. -/
def carriedOn? (a : Agent) (options : UnpackOptions) (text : String) : Result (Option String) :=
  if options.unwrapForward then a.carriedToUs? text else .ok none

/-- Removes envelopes until the message stands in the clear. `none` when the fuel is used up. -/
def unwrapFrom (a : Agent) (options : UnpackOptions) : (fuel : Nat) → Outer → String →
    ExceptT Error Option Unwrapped
  | 0, _, _ => (none : Option (Except Error Unwrapped))
  | fuel + 1, outer, text => do
    match ← Envelope.ofText text with
    | .plain value =>
      let (message, proof) ← Message.ofWire value
      return { layers := [], message, proof }
    | .signed j =>
      let signers ← a.checkSignatures j
      let (message, proof) ← openSigned j
      return { layers := [.signed text j signers], message, proof }
    | .encrypted r =>
      match ← r.algorithm with
      | .anon algorithm =>
        let o ← a.openAnon options.allKeys outer r
        let inner ← payloadText o.payload
        match ← a.carriedOn? options inner with
        | some carried =>
          let u ← a.unwrapFrom options fuel .nothing carried
          return { u with layers := .forward algorithm o :: u.layers }
        | none =>
          let u ← a.unwrapFrom options fuel .anon inner
          return { u with layers := .anon algorithm o :: u.layers }
      | .auth algorithm =>
        let (sender, o) ← a.openAuth options.allKeys outer r
        let u ← a.unwrapFrom options fuel .auth (← payloadText o.payload)
        return { u with layers := .auth algorithm sender o :: u.layers }

/-- More than the layers that a text can have: each is shorter than the one around it. -/
def layerLimit (text : String) : Nat := (Utf8.encode text).length + 2

def unwrap (a : Agent) (options : UnpackOptions) (text : String) : Result Unwrapped :=
  match a.unwrapFrom options (layerLimit text) .nothing text with
  | some answer => answer
  | none => .error (.malformed .notJson)

def checkSender (m : Message) (kid : Option String) (cause : String → Malformed) : Result Unit :=
  match kid with
  | some kid =>
    if m.sender = some (Did.ofUrl kid) then .ok () else .error (.malformed (cause kid))
  | none => .ok ()

/-- The message with its rotation, once that is proved, and with the metadata on it. -/
def settleRotation (a : Agent) (u : Unwrapped) : Result Unpacked := do
  let metadata := Metadata.ofLayers u.layers
  match u.proof with
  | none => return { message := u.message, metadata }
  | some jwt =>
    let (rotation, proof) ← a.checkProof jwt
    if u.message.sender ≠ some rotation.sub then throw (.malformed .subjectNotSender)
    return {
      message := { u.message with rotation := some rotation }
      metadata := { metadata with rotationKid := some proof.kid, rotationJwt := some jwt } }

def unpack (a : Agent) (text : String) (options : UnpackOptions) : Result Unpacked := do
  let u ← a.unwrap options text
  let answer ← a.settleRotation u
  checkSender answer.message answer.metadata.encryptedFrom .encryptedBy
  checkSender answer.message answer.metadata.signFrom .signedBy
  return answer

/-- Removes the outer envelope of a forward message, and leaves the carried message as it is. -/
def unpackForward (a : Agent) (text : String) (options : UnpackOptions) :
    Result UnpackedForward := do
  let .encrypted r ← Envelope.ofText text | throw (.malformed .forwardNotAnoncrypted)
  let .anon _ ← r.algorithm | throw (.malformed .forwardNotAnoncrypted)
  let o ← a.openAnon options.allKeys .nothing r
  let .plain value ← Envelope.ofText (← payloadText o.payload)
    | throw (.malformed .forwardNotPlaintext)
  let (m, _) ← Message.ofWire value
  let some f := Forward.ofMessage? m | throw (.malformed (.notForward m.id))
  return { message := m, next := f.next, carried := f.carried.text, kids := o.kids }

end Agent

end DidMessaging

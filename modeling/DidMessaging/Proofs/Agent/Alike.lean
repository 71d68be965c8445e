import DidMessaging.Agent.Packing
import DidMessaging.Proofs.Agent.Keeping

namespace DidMessaging.Agent

variable {a b : Agent}

/-- Agents that answer alike whatever an unpacking may ask them. -/
structure Alike (b a : Agent) : Prop where
  keyring : b.keyring = a.keyring
  verificationKey : ∀ kid, b.verificationKey kid = a.verificationKey kid
  isNext : ∀ next, b.isNext next = a.isNext next

namespace Alike

theorem symm (alike : b.Alike a) : a.Alike b where
  keyring := alike.keyring.symm
  verificationKey := fun kid => (alike.verificationKey kid).symm
  isNext := fun next => (alike.isNext next).symm

theorem heldKeys (alike : b.Alike a) (kids : List String) : b.heldKeys kids = a.heldKeys kids := by
  unfold Agent.heldKeys
  rw [alike.keyring]

/-- The key of a sender is looked up like that of a signer, but the errors differ. -/
theorem authDecryptKeys (alike : b.Alike a) (sender : String) (kids : List String) :
    b.authDecryptKeys sender kids = a.authDecryptKeys sender kids := by
  have found := alike.verificationKey sender
  unfold Agent.verificationKey at found
  unfold Agent.authDecryptKeys
  split
  · rfl
  · next isUrl =>
      rw [if_neg isUrl, if_neg isUrl] at found
      simp only [alike.heldKeys, ← bind_assoc, found]

theorem openAnon (alike : b.Alike a) (all : Bool) (outer : Outer) (r : Jwe.Received) :
    b.openAnon all outer r = a.openAnon all outer r := by
  simp only [Agent.openAnon, alike.heldKeys]

theorem openAuth (alike : b.Alike a) (all : Bool) (outer : Outer) (r : Jwe.Received) :
    b.openAuth all outer r = a.openAuth all outer r := by
  simp only [Agent.openAuth, alike.authDecryptKeys]

theorem carriedOn? (alike : b.Alike a) (options : UnpackOptions) (text : String) :
    b.carriedOn? options text = a.carriedOn? options text := by
  simp only [Agent.carriedOn?, carriedToUs?, alike.isNext]

/-- One layer after the other is removed with the same keys. -/
theorem unwrapFrom (alike : b.Alike a) (options : UnpackOptions) (fuel : Nat) (outer : Outer)
    (text : String) :
    b.unwrapFrom options fuel outer text = a.unwrapFrom options fuel outer text := by
  induction fuel generalizing outer text with
  | zero => rfl
  | succ fuel ih =>
      simp only [Agent.unwrapFrom, checkSignatures_congr alike.verificationKey, alike.openAnon,
        alike.openAuth, alike.carriedOn?, ih]

theorem unpack_eq (alike : b.Alike a) (text : String) (options : UnpackOptions) :
    b.unpack text options = a.unpack text options := by
  simp only [Agent.unpack, Agent.unwrap, alike.unwrapFrom,
    settleRotation_congr alike.verificationKey]

theorem unpack {options : UnpackOptions} (alike : b.Alike a)
    (unpacked : a.unpack text options = .ok u) : b.unpack text options = .ok u :=
  (alike.unpack_eq text options).trans unpacked

theorem unpackForward (alike : b.Alike a) (text : String) (options : UnpackOptions) :
    b.unpackForward text options = a.unpackForward text options := by
  simp only [Agent.unpackForward, alike.openAnon]

end Alike

/-- Agents that answer alike whatever a packing may ask them. -/
structure PacksAlike (b a : Agent) : Prop where
  signingKey : ∀ signer, b.signingKey signer = a.signingKey signer
  recipientKeys : ∀ recipient, b.recipientKeys recipient = a.recipientKeys recipient
  authcryptKeys : ∀ sender recipient,
    b.authcryptKeys sender recipient = a.authcryptKeys sender recipient
  serviceChain : ∀ recipient id,
    b.directory.serviceChain recipient id = a.directory.serviceChain recipient id

namespace PacksAlike

theorem plaintext (alike : b.PacksAlike a) (m : Message) (rotationKid : Option String) :
    b.plaintext m rotationKid = a.plaintext m rotationKid := by
  simp only [Agent.plaintext, proofFor, prove, alike.signingKey]

theorem signBy (alike : b.PacksAlike a) (payload signer : String) :
    b.signBy payload signer = a.signBy payload signer := by
  simp only [Agent.signBy, alike.signingKey]

theorem packPlaintext (alike : b.PacksAlike a) (m : Message) (rotationKid : Option String) :
    b.packPlaintext m rotationKid = a.packPlaintext m rotationKid := by
  simp only [Agent.packPlaintext, alike.plaintext]

theorem packSigned (alike : b.PacksAlike a) (m : Message) (signer : String)
    (rotationKid : Option String) :
    b.packSigned m signer rotationKid = a.packSigned m signer rotationKid := by
  simp only [Agent.packSigned, alike.plaintext, alike.signBy]

theorem anoncryptKeys (alike : b.PacksAlike a) (recipient : String) :
    b.anoncryptKeys recipient = a.anoncryptKeys recipient := by
  simp only [Agent.anoncryptKeys, alike.recipientKeys]

theorem encryptFor (alike : b.PacksAlike a) (payload recipient : String) (sender : Option String)
    (options : EncryptOptions) :
    b.encryptFor payload recipient sender options =
      a.encryptFor payload recipient sender options := by
  simp only [Agent.encryptFor, alike.authcryptKeys, alike.anoncryptKeys]

theorem wrapOnce (alike : b.PacksAlike a) (headers : Members) (algorithm : AnonAlgorithm)
    (packed next routingKey : String) :
    b.directory.wrapOnce headers algorithm packed next routingKey =
      a.directory.wrapOnce headers algorithm packed next routingKey := by
  -- No ring is needed to find the keys of a mediator.
  have keys : b.directory.keyless.anoncryptKeys routingKey =
      a.directory.keyless.anoncryptKeys routingKey := alike.anoncryptKeys routingKey
  simp only [Directory.wrapOnce, keys]

theorem wrapInForward (alike : b.PacksAlike a) (headers : Members) (algorithm : AnonAlgorithm)
    (packed recipient : String) (keys : List String) :
    b.directory.wrapInForward headers algorithm packed recipient keys =
      a.directory.wrapInForward headers algorithm packed recipient keys := by
  induction keys with
  | nil => rfl
  | cons key keys ih => simp only [Directory.wrapInForward, alike.wrapOnce, ih]

theorem route (alike : b.PacksAlike a) (text recipient : String) (options : EncryptOptions) :
    b.route text recipient options = a.route text recipient options := by
  simp only [Agent.route, alike.serviceChain, alike.wrapInForward]

theorem packEncrypted (alike : b.PacksAlike a) (m : Message) (recipient : String)
    (sender signer : Option String) (options : EncryptOptions) :
    b.packEncrypted m recipient sender signer options =
      a.packEncrypted m recipient sender signer options := by
  simp only [Agent.packEncrypted, Agent.payload, alike.plaintext, alike.signBy, alike.encryptFor,
    alike.route]

end PacksAlike

end DidMessaging.Agent

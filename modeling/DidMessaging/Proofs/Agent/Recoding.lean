import DidMessaging.Proofs.Agent.Alike
import DidMessaging.Proofs.Key.Recoding

namespace DidMessaging

open Result

/-- The same method, or one with its id that carries the same octets in another form. -/
inductive VerificationMethod.Recoded : VerificationMethod → VerificationMethod → Prop
  | unchanged (m : VerificationMethod) : Recoded m m
  | carries {m m' : VerificationMethod} {curve : Curve} {raw : Bytes} (id : m'.id = m.id)
      (sized : raw.length = 32) (before : m.Carries curve raw) (after : m'.Carries curve raw) :
      Recoded m m'

/-- Documents that carry the same keys, some of them in other forms. -/
structure Document.Recoded (d d' : Document) : Prop where
  id : d'.id = d.id
  keyAgreement : d'.keyAgreement = d.keyAgreement
  authentication : d'.authentication = d.authentication
  services : d'.services = d.services
  methods : List.Forall₂ VerificationMethod.Recoded d.methods d'.methods

structure Directory.Recoded (d d' : Directory) : Prop where
  unreachable : d'.unreachable = d.unreachable
  documents : List.Forall₂ Document.Recoded d.documents d'.documents

namespace VerificationMethod.Recoded

variable {m m' : VerificationMethod}

theorem id (recoded : m.Recoded m') : m'.id = m.id := by
  cases recoded with
  | unchanged => rfl
  | carries id => exact id

theorem ofMethod (recoded : m.Recoded m') : Key.ofMethod m' = Key.ofMethod m := by
  cases recoded with
  | unchanged => rfl
  | carries id sized before after =>
      rw [Key.ofMethod_of_carries before sized, Key.ofMethod_of_carries after sized, id]

end VerificationMethod.Recoded

namespace Document.Recoded

variable {d d' : Document}

theorem method (recoded : d.Recoded d') (kid : String) :
    Related VerificationMethod.Recoded (d.method kid) (d'.method kid) := by
  have found : Option.Rel VerificationMethod.Recoded (d.method? kid) (d'.method? kid) :=
    Optional.rel_find? recoded.methods fun m m' same => by rw [same.id]
  unfold Document.method
  generalize d.method? kid = m, d'.method? kid = m' at found
  cases found with
  | some same => exact .ok same
  | none => exact .error _

theorem key (recoded : d.Recoded d') (kid : String) :
    (d'.method kid >>= Key.ofMethod) = (d.method kid >>= Key.ofMethod) :=
  (recoded.method kid).bind_eq fun _ _ same => same.ofMethod

theorem agreementKeys (recoded : d.Recoded d') :
    (d'.agreementMethods >>= (·.mapM Key.ofMethod)) =
      (d.agreementMethods >>= (·.mapM Key.ofMethod)) := by
  have methods : Related (List.Forall₂ VerificationMethod.Recoded) d.agreementMethods
      d'.agreementMethods := by
    rw [agreementMethods, agreementMethods, recoded.keyAgreement]
    exact .mapM recoded.method d.keyAgreement
  exact methods.bind_eq fun _ _ each =>
    mapM_congr_of_forall₂ (each.imp fun _ _ same => same.ofMethod)

end Document.Recoded

namespace Directory.Recoded

variable {d d' : Directory}

theorem resolve (recoded : d.Recoded d') (did : String) :
    Related (Option.Rel Document.Recoded) (d.resolve did) (d'.resolve did) := by
  have found : Option.Rel Document.Recoded (d.documents.find? (·.id = did))
      (d'.documents.find? (·.id = did)) :=
    Optional.rel_find? recoded.documents fun doc doc' same => by rw [same.id]
  unfold Directory.resolve
  rw [recoded.unreachable]
  split
  · exact .error _
  · exact .ok found

theorem document (recoded : d.Recoded d') (did : String) :
    Related Document.Recoded (d.document did) (d'.document did) := by
  refine (recoded.resolve did).bind fun found found' same => ?_
  cases same with
  | some same => exact .ok same
  | none => exact .error _

theorem serviceChain (recoded : d.Recoded d') (recipient : String) (id : Option String) :
    d'.serviceChain recipient id = d.serviceChain recipient id := by
  refine (recoded.document _).bind_eq fun doc doc' same => ?_
  rw [same.services]
  refine congrArg _ (funext fun found => ?_)
  cases found with
  | none => rfl
  | some s =>
      dsimp only
      split
      · rfl
      -- The endpoint may name a mediator, whose document is looked up as well.
      · refine (recoded.document s.endpoint).bind_eq fun mediator mediator' same => ?_
        rw [same.services]

section

variable (recoded : d.Recoded d') (k : Keyring)
include recoded

theorem signingKid (signer : String) :
    (⟨d', k⟩ : Agent).signingKid signer = (⟨d, k⟩ : Agent).signingKid signer := by
  refine (recoded.document _).bind_eq fun doc doc' same => ?_
  rw [same.authentication]
  split
  · exact (same.method signer).bind_eq fun _ _ _ => rfl
  · rfl

theorem recipientKeys (recipient : String) :
    (⟨d', k⟩ : Agent).recipientKeys recipient = (⟨d, k⟩ : Agent).recipientKeys recipient := by
  refine (recoded.document _).bind_eq fun doc doc' same => ?_
  rw [same.keyAgreement]
  simp only [← bind_assoc, same.key, same.agreementKeys]

theorem authcryptKeys (sender recipient : String) :
    (⟨d', k⟩ : Agent).authcryptKeys sender recipient =
      (⟨d, k⟩ : Agent).authcryptKeys sender recipient := by
  refine (recoded.document _).bind_eq fun doc doc' same => ?_
  have kids :
      (⟨d', k⟩ : Agent).senderKids doc' sender = (⟨d, k⟩ : Agent).senderKids doc sender := by
    unfold Agent.senderKids
    rw [same.keyAgreement]
  have compatible (recipients : List Key) (kids : List String) :
      (⟨d', k⟩ : Agent).firstCompatible recipients kids =
        (⟨d, k⟩ : Agent).firstCompatible recipients kids := by
    induction kids with
    | nil => rfl
    | cons kid kids ih => simp only [Agent.firstCompatible, ih]
  simp only [recoded.recipientKeys, kids, compatible]

theorem verificationKey (kid : String) :
    (⟨d', k⟩ : Agent).verificationKey kid = (⟨d, k⟩ : Agent).verificationKey kid := by
  have key := (recoded.document (Did.ofUrl kid)).bind_eq fun doc doc' same => same.key kid
  simp only [Agent.verificationKey, key]

theorem isNext (next : String) :
    (⟨d', k⟩ : Agent).isNext next = (⟨d, k⟩ : Agent).isNext next := by
  unfold Agent.isNext
  split
  · rfl
  · refine (recoded.resolve next).bind_eq fun found found' same => ?_
    cases same with
    | none => rfl
    | some same => dsimp only; rw [same.keyAgreement]

theorem packsAlike : (⟨d', k⟩ : Agent).PacksAlike ⟨d, k⟩ where
  signingKey := fun signer => by rw [Agent.signingKey, recoded.signingKid, Agent.signingKey]
  recipientKeys := recoded.recipientKeys k
  authcryptKeys := recoded.authcryptKeys k
  serviceChain := recoded.serviceChain

theorem alike : (⟨d', k⟩ : Agent).Alike ⟨d, k⟩ where
  keyring := rfl
  verificationKey := recoded.verificationKey k
  isNext := recoded.isNext k

end

end Directory.Recoded

namespace Agent

/-- Keys may be carried in any form, and in each of them they are read as the same key. Two agents
with the same keys of their own, whose directories carry the same public keys in different forms,
cannot be told apart: from the same entropy they pack the same, and what they are given they unpack
the same, or fail with the same error. -/
theorem recoded_interchangeable {d d' : Directory} (recoded : d.Recoded d') (k : Keyring) :
    let a : Agent := ⟨d, k⟩
    let b : Agent := ⟨d', k⟩
    (∀ (m : VerificationMethod) curve raw, m.Carries curve raw → raw.length = 32 →
      Key.ofMethod m = .ok (.ofCoordinate m.id curve raw)) ∧
    (∀ m rotationKid, b.packPlaintext m rotationKid = a.packPlaintext m rotationKid) ∧
    (∀ m signer rotationKid,
      b.packSigned m signer rotationKid = a.packSigned m signer rotationKid) ∧
    (∀ m recipient sender signer options (e : Entropy),
      b.packEncrypted m recipient sender signer options e =
        a.packEncrypted m recipient sender signer options e) ∧
    (∀ text options, b.unpack text options = a.unpack text options) ∧
    (∀ text options, b.unpackForward text options = a.unpackForward text options) := by
  intro a b
  have packs : b.PacksAlike a := recoded.packsAlike k
  have unpacks : b.Alike a := recoded.alike k
  exact ⟨fun m curve raw => Key.ofMethod_of_carries, packs.packPlaintext, packs.packSigned,
    fun m recipient sender signer options e =>
      congrFun (packs.packEncrypted m recipient sender signer options) e,
    unpacks.unpack_eq, unpacks.unpackForward⟩

/-- The document of the sender, with one key as Base58 text and the other as multibase text. -/
def textualAlice : Document where
  id := "did:example:alice"
  keyAgreement := ["did:example:alice#1"]
  authentication := ["did:example:alice#2"]
  methods := [
    ⟨"did:example:alice#1", .x25519KeyAgreementKey2019, "did:example:alice",
      .base58 (Base58.encode (X25519.publicKey (List.replicate 32 1)))⟩,
    ⟨"did:example:alice#2", .ed25519VerificationKey2020, "did:example:alice",
      .multibase (String.ofList ('z' :: Positional.encode Base58.alphabet
        (Key.ed25519Code :: 1 :: Ed25519.publicKey (List.replicate 32 2))))⟩]
  services := []

theorem recoded_textualAlice : aliceDocument.Recoded textualAlice where
  id := rfl
  keyAgreement := rfl
  authentication := rfl
  services := rfl
  methods := .cons (.carries rfl (X25519.length_publicKey _) (.jwk rfl (.refl _)) .x25519Base58) <|
    .cons (.carries rfl (Ed25519.length_publicKey _) (.jwk rfl (.refl _))
      (.ed25519Multibase rfl rfl)) .nil

/-- The recipient learns the keys of the sender from texts, and unpacks what was packed by one who
published them as JSON Web Keys. -/
theorem recoded_interchangeable_invitation :
    ∃ (d : Directory) (text : String) (u : Unpacked),
      d.document "did:example:alice" = .ok textualAlice ∧ parties.Recoded d ∧
      (⟨d, bob.keyring⟩ : Agent).unpack text {} = .ok u ∧ u.message = invitation := by
  obtain ⟨text, u, unpacked, message, -⟩ := exists_unpack_invitation
  have bobUnchanged : bobDocument.Recoded bobDocument :=
    ⟨rfl, rfl, rfl, rfl, .cons (.unchanged _) .nil⟩
  have annUnchanged : annDocument.Recoded annDocument :=
    ⟨rfl, rfl, rfl, rfl, .cons (.unchanged _) .nil⟩
  have recoded : parties.Recoded (.ofDocuments [textualAlice, bobDocument, annDocument]) :=
    ⟨rfl, .cons recoded_textualAlice (.cons bobUnchanged (.cons annUnchanged .nil))⟩
  obtain ⟨-, -, -, -, unpacks, -⟩ := recoded_interchangeable recoded bob.keyring
  exact ⟨_, text, u, rfl, recoded, (unpacks text {}).trans unpacked, message⟩

end Agent

end DidMessaging

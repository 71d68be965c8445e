import DidMessaging.Proofs.Agent.Alike

namespace DidMessaging

open Result

/-- The keys of a document, none of them declared for signatures, and for encryption only those of
the ring. -/
def Document.undeclared (k : Keyring) (d : Document) : Document :=
  { d with keyAgreement := k.held d.keyAgreement, authentication := [] }

def Directory.undeclared (k : Keyring) (d : Directory) : Directory :=
  { d with documents := d.documents.map (·.undeclared k) }

def Agent.undeclared (a : Agent) : Agent := { a with directory := a.directory.undeclared a.keyring }

namespace Agent

variable {a : Agent}

theorem resolve_undeclared (a : Agent) (did : String) :
    a.undeclared.directory.resolve did =
      (a.directory.resolve did).map (·.map (·.undeclared a.keyring)) :=
  Directory.resolve_map (f := (·.undeclared a.keyring)) (fun _ => rfl) a.directory did

theorem alike_undeclared (a : Agent) : a.undeclared.Alike a where
  keyring := rfl
  verificationKey := by
    intro kid
    unfold verificationKey Directory.document
    rw [resolve_undeclared]
    cases a.directory.resolve (Did.ofUrl kid) with
    | error e => rfl
    | ok found => cases found <;> rfl
  isNext := by
    intro next
    have again (kids : List String) :
        a.keyring.held (a.keyring.held kids) = a.keyring.held kids := by
      simp [Keyring.held]
    unfold isNext
    rw [resolve_undeclared]
    cases a.directory.resolve next with
    | error e => rfl
    | ok found =>
        cases found with
        | none => rfl
        | some doc =>
            simp only [Except.map, Option.map_some, Document.undeclared, undeclared, bind,
              Except.bind, again]

/-- Unpacking accepts a key because it is published, whatever it is published for. The signatures,
the envelope and the rotation that the metadata tell of are each made with a key that the document
of its DID has under its id. All others who know the same keys unpack the same, whichever of them
their documents declare for signatures, and whichever they declare for encryption but for those of
the receiver itself. -/
theorem unpack_published {options : UnpackOptions} (unpacked : a.unpack text options = .ok u) :
    (∀ t ∈ u.metadata.signedText, ∃ j, Jws.parse t = .ok j ∧
      ∀ s ∈ j.signatures, ∃ key, a.Publishes (Did.ofUrl s.kid) s.kid key ∧ j.Holds s key) ∧
    (∀ kid, kid ∈ u.metadata.encryptedFrom ∨ kid ∈ u.metadata.rotationKid →
      ∃ key, a.Publishes (Did.ofUrl kid) kid key) ∧
    ∀ b : Agent, b.undeclared = a.undeclared → b.unpack text options = .ok u := by
  refine ⟨?_, ?_, ?_⟩
  · intro t kept
    obtain ⟨j, signers, -, -, received, checked, -⟩ := signed_of_unpack unpacked kept
    exact ⟨j, Envelope.signed_of_ofText received, (checkSignatures_sound checked).1⟩
  · obtain ⟨w, unwrapped, settled, -, -⟩ := unpack_eq_ok_iff.mp unpacked
    obtain ⟨s, value, layers, nested, read⟩ := unwrap_sound unwrapped
    rintro kid (encrypted | rotates)
    · obtain ⟨⟨_, metadata⟩, -⟩ :=
        settleRotation_frame layers (Message.rotation_of_ofWire read) settled
      rw [metadata] at encrypted
      obtain ⟨-, -, o, -, -, -, -, -, opened⟩ := s.auth_sound nested encrypted
      obtain ⟨key, published, -⟩ := opened.opened
      exact ⟨key, published⟩
    · rcases settleRotation_sound settled with ⟨-, rfl⟩ | ⟨jwt, kid', r, -, proved, -, rfl⟩
      · rw [← layers, Stack.ofLayers_layers] at rotates
        contradiction
      · obtain rfl : kid' = kid := Option.some.inj rotates
        obtain ⟨compact, payload, key, -, -, published, -⟩ := proved.signed
        exact ⟨key, proved.issuer ▸ published⟩
  · intro b same
    have undeclared := (alike_undeclared a).unpack unpacked
    rw [← same] at undeclared
    exact (alike_undeclared b).symm.unpack undeclared

/-- The sender's document declares neither of the keys that the message was made with. -/
theorem unpack_published_invitation :
    ∃ (b : Agent) (text : String) (u : Unpacked), b.directory.document "did:example:alice" =
        .ok { aliceDocument with keyAgreement := [], authentication := [] } ∧
      b.unpack text {} = .ok u ∧ u.message = invitation ∧
      u.metadata.encryptedFrom = some "did:example:alice#1" ∧
      u.metadata.signFrom = some "did:example:alice#2" := by
  obtain ⟨text, u, unpacked, message, -, encryptedFrom, signFrom⟩ := exists_unpack_invitation
  obtain ⟨-, -, others⟩ := unpack_published unpacked
  let undeclared := { aliceDocument with keyAgreement := [], authentication := [] }
  let b : Agent := ⟨.ofDocuments [undeclared, bobDocument, annDocument], bob.keyring⟩
  exact ⟨b, text, u, rfl, others b rfl, message, encryptedFrom, signFrom⟩

end Agent

end DidMessaging

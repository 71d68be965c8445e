import DidMessaging.Proofs.Agent.Encrypted
import DidMessaging.Proofs.Did.Url
import DidMessaging.Proofs.Envelope.Decryption

namespace DidMessaging

open Result

/-- An envelope from a sender was opened with a published key of the sender. -/
structure Opened.From (o : Opened) (a : Agent) (kid : String) : Prop where
  opened : ∃ key, a.Publishes (Did.ofUrl kid) kid key ∧ o.sender = some key ∧
    ∃ recipient ∈ o.keys, o.envelope.decrypt (some key) recipient = .ok o.payload
  named : o.envelope.header.skid = some kid

theorem Agent.openAuth_sound {a : Agent}
    (opened : a.openAuth all outer r = .ok (sender, o)) :
    r.withSender = .ok o.envelope ∧ o.From a sender := by
  obtain ⟨-, opened⟩ := openAuth_eq_ok_iff.mp opened
  obtain ⟨withSender, -, key, isSender, found, kids, decrypted⟩ :=
    openAuth_nothing_eq_ok_iff.mp opened
  obtain ⟨skid, -, decrypted⟩ := Jwe.Received.authDecrypt_eq_ok_iff.mp decrypted
  obtain ⟨known, -⟩ := authDecryptKeys_eq_ok_iff.mp found
  have published := verificationKey_sound known
  refine ⟨withSender, ⟨key, published, isSender, Jwe.Received.decryptBy_sound decrypted⟩, ?_⟩
  rw [skid, published.id]

/-- A signed text whose signatures all hold, the first of them under the key `kid`. -/
structure Jws.SignedBy (j : Jws) (a : Agent) (kid : String) : Prop where
  each : ∀ s ∈ j.signatures, ∃ key, a.Publishes (Did.ofUrl s.kid) s.kid key ∧ j.Holds s key
  first : j.signatures.head?.map (·.kid) = some kid

theorem Opens.signedBy {a : Agent} {options : UnpackOptions}
    (opens : Opens a options outside (.signed text j signers) inside)
    (first : signers.head?.map Prod.fst = some kid) :
    Jws.parse text = .ok j ∧ j.SignedBy a kid := by
  obtain ⟨parsed, -, hold, kids⟩ := opens.signed_sound
  refine ⟨parsed, hold, ?_⟩
  rw [← List.head?_map, ← kids, List.head?_map, first]

namespace Stack

/-! The layers that the metadata tell of. -/

/-- Whether a layer is an envelope from a sender. -/
def isAuth : Layer → Bool
  | .auth _ _ _ => true
  | _ => false

theorem isAuth_of_signed {signed : Option (String × Jws × List (String × SignatureAlgorithm))}
    (member : layer ∈ ({ signed := signed } : Stack).layers) : isAuth layer = false := by
  cases signed with
  | none => simp [layers, kernel] at member
  | some found =>
      obtain rfl : layer = .signed found.1 found.2.1 found.2.2 := by
        simpa [layers, kernel] using member
      rfl

theorem openSigned_of_nested {a : Agent} {options : UnpackOptions} {s : Stack}
    (nested : Nested a options text s.layers value) (signed : s.signed = some (t, j, signers))
    (read : Message.ofWire value = .ok (m, proof)) :
    (∃ outside inside, Opens a options outside (.signed t j signers) inside) ∧
      Agent.openSigned j = .ok (m, proof) := by
  rw [layers_of_signed signed] at nested
  obtain ⟨outside, last⟩ := nested.drop
  cases last with
  | layer opens inner =>
      refine ⟨⟨_, _, opens⟩, ?_⟩
      cases opens with
      | signed received checked decoded inside =>
          cases inner with
          | plain plain =>
              exact Agent.openSigned_eq_ok_iff.mpr ⟨_, _, _, decoded, inside, plain, read⟩

/-- The last envelope from a sender was opened with a key of that sender. -/
theorem auth_sound {a : Agent} {options : UnpackOptions} {s : Stack}
    (nested : Nested a options text s.layers value) (sender : kid ∈ s.metadata.encryptedFrom) :
    ∃ before algorithm o after outside,
      s.layers = before ++ .auth algorithm kid o :: after ∧
      (∀ layer ∈ after, isAuth layer = false) ∧
      Nested a options outside (.auth algorithm kid o :: after) value ∧ o.From a kid := by
  obtain ⟨⟨algorithm, kid', o⟩, auth, rfl⟩ := Option.map_eq_some_iff.mp sender
  have split := layers_of_auth auth
  rw [split] at nested
  obtain ⟨outside, inner⟩ := nested.drop
  refine ⟨_, algorithm, o, _, outside, split, fun _ => isAuth_of_signed, inner, ?_⟩
  cases inner with
  | layer opens _ =>
      cases opens with
      | auth received found opened inside => exact (Agent.openAuth_sound opened).2

theorem signed_sound {a : Agent} {options : UnpackOptions} {s : Stack}
    (nested : Nested a options text s.layers value) (signer : kid ∈ s.metadata.signFrom)
    (read : Message.ofWire value = .ok (m, proof)) :
    ∃ t j, s.metadata.signedText = some t ∧ Jws.parse t = .ok j ∧ j.SignedBy a kid ∧
      Agent.openSigned j = .ok (m, proof) := by
  obtain ⟨⟨t, j, signers⟩, signed, first⟩ := Option.bind_eq_some_iff.mp signer
  obtain ⟨⟨outside, inside, opens⟩, opened⟩ := openSigned_of_nested nested signed read
  obtain ⟨parsed, signedBy⟩ := opens.signedBy first
  refine ⟨t, j, ?_, parsed, signedBy, opened⟩
  rw [metadata, signed, Option.map_some]

end Stack

theorem Jws.SignedBy.published {a : Agent} {j : Jws} (signedBy : j.SignedBy a kid) :
    ∃ key, a.Publishes (Did.ofUrl kid) kid key := by
  obtain ⟨s, head, rfl⟩ := Option.map_eq_some_iff.mp signedBy.first
  obtain ⟨key, published, -⟩ := signedBy.each s (List.mem_of_head? head)
  exact ⟨key, published⟩

/-- Whoever is named as the sender of an unpacked message did send it: keys of that DID encrypted
and signed it, every signature holds, and a rotation is signed with a key of the DID that is given
up. -/
theorem unpack_authentic {a : Agent} {options : UnpackOptions}
    (unpacked : a.unpack text options = .ok u) :
    (u.metadata.authenticated = true → ∃ d, u.message.sender = some d ∧
      ∀ kid, kid ∈ u.metadata.encryptedFrom ∨ kid ∈ u.metadata.signFrom →
        ∃ key, a.Publishes d kid key) ∧
    (∀ kid ∈ u.metadata.encryptedFrom, ∃ w before algorithm o after outside value,
      a.unwrap options text = .ok w ∧ w.layers = before ++ .auth algorithm kid o :: after ∧
      (∀ layer ∈ after, Stack.isAuth layer = false) ∧
      Nested a options outside (.auth algorithm kid o :: after) value ∧ o.From a kid) ∧
    (∀ kid ∈ u.metadata.signFrom, ∃ signed j,
      u.metadata.signedText = some signed ∧ Jws.parse signed = .ok j ∧ j.SignedBy a kid ∧
      Agent.openSigned j =
        .ok ({ u.message with rotation := none }, u.metadata.rotationJwt)) ∧
    (∀ r ∈ u.message.rotation, ∃ kid jwt,
      u.metadata.rotationKid = some kid ∧ u.metadata.rotationJwt = some jwt ∧
      u.message.sender = some r.sub ∧ r.iss ≠ r.sub ∧
      Did.parse? r.iss = some ⟨r.iss, none⟩ ∧ Did.parse? r.sub = some ⟨r.sub, none⟩ ∧
      r.ProvedBy a jwt kid) := by
  obtain ⟨w, unwrapped, settled, encryptedBy, signedBy⟩ := Agent.unpack_eq_ok_iff.mp unpacked
  obtain ⟨s, value, layers, nested, read⟩ := Agent.unwrap_sound unwrapped
  have noRotation := Message.rotation_of_ofWire read
  obtain ⟨⟨kid, metadata⟩, message⟩ := Agent.settleRotation_frame layers noRotation settled
  have encryptedFrom : u.metadata.encryptedFrom = s.metadata.encryptedFrom := by rw [metadata]
  have signFrom : u.metadata.signFrom = s.metadata.signFrom := by rw [metadata]
  have published : ∀ k, k ∈ u.metadata.encryptedFrom ∨ k ∈ u.metadata.signFrom →
      u.message.sender = some (Did.ofUrl k) ∧ ∃ key, a.Publishes (Did.ofUrl k) k key := by
    rintro k (encrypted | signed)
    · refine ⟨encryptedBy k encrypted, ?_⟩
      obtain ⟨-, -, o, -, -, -, -, -, opened⟩ := s.auth_sound nested (encryptedFrom ▸ encrypted)
      obtain ⟨key, keyPublished, -⟩ := opened.opened
      exact ⟨key, keyPublished⟩
    · refine ⟨signedBy k signed, ?_⟩
      obtain ⟨_, _, -, -, signatures, -⟩ := s.signed_sound nested (signFrom ▸ signed) read
      exact signatures.published
  refine ⟨fun authenticated => ?_, fun k encrypted => ?_, fun k signed => ?_, fun r rotates => ?_⟩
  · have authenticated : s.metadata.authenticated = true := by rwa [metadata] at authenticated
    obtain ⟨k, named⟩ := s.named_of_authenticated nested authenticated
    rw [← encryptedFrom, ← signFrom] at named
    obtain ⟨sender, -⟩ := published k named
    refine ⟨Did.ofUrl k, sender, fun k' named' => ?_⟩
    obtain ⟨sender', key, keyPublished⟩ := published k' named'
    have same : Did.ofUrl k = Did.ofUrl k' := Option.some.inj (sender.symm.trans sender')
    exact ⟨key, same ▸ keyPublished⟩
  · obtain ⟨before, algorithm, o, after, outside, split, noAuth, inner, opened⟩ :=
      s.auth_sound nested (encryptedFrom ▸ encrypted)
    exact ⟨w, before, algorithm, o, after, outside, value, unwrapped, layers ▸ split, noAuth, inner,
      opened⟩
  · obtain ⟨t, j, signedText, parsed, signatures, opened⟩ :=
      s.signed_sound nested (signFrom ▸ signed) read
    refine ⟨t, j, ?_, parsed, signatures, ?_⟩
    · rw [metadata]
      exact signedText
    · rw [message, metadata]
      exact opened
  · rcases Agent.settleRotation_sound settled with ⟨-, rfl⟩ | ⟨jwt, k, r', -, proved, subject, rfl⟩
    · rw [noRotation] at rotates
      contradiction
    · obtain rfl : r' = r := Option.some.inj rotates
      obtain ⟨issuer, subjectDid, different⟩ := Rotation.validate_sound proved.valid
      exact ⟨k, jwt, rfl, rfl, subject, different, issuer, subjectDid, proved⟩

theorem unpack_authentic_invitation :
    ∃ text u, Agent.bob.unpack text {} = .ok u ∧
      ∃ d, u.message.sender = some d ∧ ∃ key, Agent.bob.Publishes d "did:example:alice#1" key := by
  obtain ⟨text, u, unpacked, -, authenticated, encryptedFrom, -⟩ := Agent.exists_unpack_invitation
  obtain ⟨named, -⟩ := unpack_authentic unpacked
  obtain ⟨d, sender, published⟩ := named authenticated
  exact ⟨text, u, unpacked, d, sender, published _ (.inl encryptedFrom)⟩

end DidMessaging

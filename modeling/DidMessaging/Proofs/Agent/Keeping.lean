import DidMessaging.Proofs.Agent.Authenticity
import DidMessaging.Proofs.Agent.Rewriting

namespace DidMessaging.Agent

open Result

variable {a b : Agent}

/-! Signatures are judged by published keys alone. -/

theorem verificationKey_congr (same : b.directory = a.directory) (kid : String) :
    b.verificationKey kid = a.verificationKey kid := by
  unfold verificationKey
  rw [same]

section

variable (keys : ∀ kid, b.verificationKey kid = a.verificationKey kid)
include keys

theorem checkSignatures_congr (j : Jws) : b.checkSignatures j = a.checkSignatures j := by
  unfold checkSignatures
  simp only [keys]

theorem checkProof_congr (jwt : String) : b.checkProof jwt = a.checkProof jwt := by
  unfold checkProof
  simp only [keys]

theorem settleRotation_congr (w : Unwrapped) : b.settleRotation w = a.settleRotation w := by
  unfold settleRotation
  simp only [checkProof_congr keys]

end

/-- The signed text that the metadata tell of: what was checked of it, and what it contributes. -/
theorem signed_of_unpack {options : UnpackOptions} (unpacked : a.unpack text options = .ok u)
    (kept : u.metadata.signedText = some signed) :
    ∃ j signers m proof, Envelope.ofText signed = .ok (.signed j) ∧
      a.checkSignatures j = .ok signers ∧ openSigned j = .ok (m, proof) ∧
      u.metadata.signFrom = signers.head?.map Prod.fst ∧
      u.metadata.signAlgorithm = signers.head?.map Prod.snd ∧
      ∀ s : Stack, a.settleRotation ⟨s.layers, m, proof⟩ = .ok ⟨u.message, { s.metadata with
        rotationKid := u.metadata.rotationKid
        rotationJwt := u.metadata.rotationJwt }⟩ := by
  obtain ⟨⟨layers, m, proof⟩, unwrapped, settled, -, -⟩ := unpack_eq_ok_iff.mp unpacked
  obtain ⟨s, value, sameLayers, nested, read⟩ := unwrap_sound unwrapped
  obtain rfl : s.layers = layers := sameLayers
  obtain ⟨⟨kid, metadata⟩, -⟩ := settleRotation_frame rfl (Message.rotation_of_ofWire read) settled
  have signedText : s.signed.map (·.1) = some signed := by rwa [metadata] at kept
  obtain ⟨⟨t, j, signers⟩, layer, rfl⟩ := Option.map_eq_some_iff.mp signedText
  obtain ⟨⟨outside, inside, opens⟩, opened⟩ := s.openSigned_of_nested nested layer read
  cases opens with
  | signed received checked decoded inside =>
      refine ⟨j, signers, m, proof, received, checked, opened, ?_, ?_, fun s' => ?_⟩
      · simp [metadata, Stack.metadata, layer]
      · simp [metadata, Stack.metadata, layer]
      · exact settleRotation_stack settled

/-- The signed text that the metadata tell of is unpacked, by whoever has the same directory, to the
same message, signers and rotation. Of the envelopes that were around it nothing is left. -/
theorem unpack_signedText {options : UnpackOptions} (unpacked : a.unpack text options = .ok u)
    (kept : u.metadata.signedText = some signed) (same : b.directory = a.directory)
    (options' : UnpackOptions) :
    b.unpack signed options' = .ok ⟨u.message, {
      authenticated := true
      nonRepudiation := true
      signFrom := u.metadata.signFrom
      rotationKid := u.metadata.rotationKid
      signAlgorithm := u.metadata.signAlgorithm
      signedText := some signed
      rotationJwt := u.metadata.rotationJwt }⟩ := by
  obtain ⟨-, -, -, -, signedBy⟩ := unpack_eq_ok_iff.mp unpacked
  obtain ⟨j, signers, m, proof, received, checked, opened, signFrom, signAlgorithm, settles⟩ :=
    signed_of_unpack unpacked kept
  have keys := verificationKey_congr same
  have alone : b.unwrap options' signed = .ok ⟨[.signed signed j signers], m, proof⟩ :=
    unwrap_signed received ((checkSignatures_congr keys j).trans checked) opened
  have settled := settles { signed := some (signed, j, signers) }
  rw [← settleRotation_congr keys] at settled
  rw [signFrom] at signedBy ⊢
  rw [signAlgorithm]
  exact unpack_eq_ok_iff.mpr ⟨_, alone, settled, by simp, signedBy⟩

/-- One who holds no keys at all is convinced by what the recipient has kept. -/
theorem unpack_signedText_invitation :
    ∃ text u signed, bob.unpack text {} = .ok u ∧ u.metadata.encrypted = true ∧
      u.metadata.signedText = some signed ∧
      (⟨parties, .empty⟩ : Agent).unpack signed { allKeys := true } = .ok ⟨invitation, {
        authenticated := true
        nonRepudiation := true
        signFrom := some "did:example:alice#2"
        signAlgorithm := some .edDsa
        signedText := some signed }⟩ := by
  obtain ⟨payload, j, unpacked⟩ := unpack_hidden_invitation {}
  have again := unpack_signedText (b := ⟨parties, .empty⟩) unpacked rfl rfl { allKeys := true }
  exact ⟨j.text, _, payload, unpacked, rfl, rfl, again⟩

end DidMessaging.Agent

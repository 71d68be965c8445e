import DidMessaging.Proofs.Agent.Envelope
import DidMessaging.Proofs.Agent.Keys
import DidMessaging.Proofs.Agent.Nesting
import DidMessaging.Proofs.Envelope.Signature
import DidMessaging.Proofs.Message.Wire

namespace DidMessaging

open Result

/-- A signed text proves a rotation: it is signed with a key of the DID that is given up. -/
structure Rotation.ProvedBy (r : Rotation) (a : Agent) (jwt kid : String) : Prop where
  valid : r.validate = .ok ()
  issuer : Did.ofUrl kid = r.iss
  signed : ∃ compact payload key, CompactJws.parse jwt = .ok compact ∧ compact.header.kid = kid ∧
    a.Publishes r.iss kid key ∧ compact.Holds key ∧ compact.decodePayload = .ok payload ∧
    (Json.Tree.readBytes? payload).bind Rotation.read? = some r

namespace Agent

theorem checkProof_sound {a : Agent} (checked : a.checkProof jwt = .ok (r, proof)) :
    proof.jwt = jwt ∧ r.ProvedBy a jwt proof.kid := by
  unfold checkProof at checked
  obtain ⟨compact, parsed, checked⟩ := bind_eq_ok_iff.mp checked
  obtain ⟨key, keyFound, checked⟩ := bind_eq_ok_iff.mp checked
  obtain ⟨holds, checked⟩ := check_bind_eq_ok_iff.mp checked
  obtain ⟨payload, decoded, checked⟩ := bind_eq_ok_iff.mp checked
  cases claims : (Json.Tree.readBytes? payload).bind Rotation.read? with
  | none => simp [claims] at checked
  | some r' =>
      simp only [claims, ite_throw_eq_ok_iff] at checked
      obtain ⟨issuer, checked⟩ := checked
      cases valid : r'.validate with
      | error cause => simp [valid] at checked
      | ok u =>
          simp only [valid] at checked
          obtain ⟨rfl, rfl⟩ := Prod.mk.inj (pure_eq_ok_iff.mp checked)
          have issuer := not_not.mp issuer
          refine ⟨rfl, valid, issuer, compact, payload, key, parsed, rfl, ?_,
            CompactJws.verify_eq_ok_iff.mp holds, decoded, claims⟩
          rw [← issuer]
          exact verificationKey_sound keyFound

/-- The message is the one that was unwrapped, with its rotation if that is proved. -/
theorem settleRotation_sound {a : Agent} (settled : a.settleRotation w = .ok u) :
    (w.proof = none ∧ u = ⟨w.message, .ofLayers w.layers⟩) ∨
      ∃ jwt kid r, w.proof = some jwt ∧ r.ProvedBy a jwt kid ∧ w.message.sender = some r.sub ∧
        u = ⟨{ w.message with rotation := some r },
          { Metadata.ofLayers w.layers with rotationKid := some kid, rotationJwt := some jwt }⟩ := by
  unfold settleRotation at settled
  cases proof : w.proof with
  | none =>
      simp only [proof] at settled
      exact .inl ⟨rfl, (pure_eq_ok_iff.mp settled).symm⟩
  | some jwt =>
      simp only [proof] at settled
      obtain ⟨⟨r, found⟩, checked, settled⟩ := bind_eq_ok_iff.mp settled
      simp only [ite_throw_eq_ok_iff] at settled
      obtain ⟨subject, settled⟩ := settled
      obtain ⟨-, proved⟩ := checkProof_sound checked
      exact .inr ⟨jwt, found.kid, r, rfl, proved, not_not.mp subject,
        (pure_eq_ok_iff.mp settled).symm⟩

/-- The metadata and the message are those that were unwrapped, but for the rotation. -/
theorem settleRotation_frame {a : Agent} {s : Stack} (layers : s.layers = w.layers)
    (noRotation : w.message.rotation = none) (settled : a.settleRotation w = .ok u) :
    (∃ kid, u.metadata = { s.metadata with rotationKid := kid, rotationJwt := w.proof }) ∧
      { u.message with rotation := none } = w.message := by
  rcases settleRotation_sound settled with ⟨proof, rfl⟩ | ⟨jwt, kid, r, proof, -, -, rfl⟩
  · rw [← layers, Stack.ofLayers_layers, proof, ← noRotation]
    exact ⟨⟨none, rfl⟩, rfl⟩
  · rw [← layers, Stack.ofLayers_layers, proof, ← noRotation]
    exact ⟨⟨some kid, rfl⟩, rfl⟩

theorem checkSender_eq_ok_iff {m : Message} {kid : Option String} {cause : String → Malformed} :
    checkSender m kid cause = .ok () ↔ ∀ k ∈ kid, m.sender = some (Did.ofUrl k) := by
  unfold checkSender
  cases kid <;> simp

theorem unpack_eq_ok_iff {a : Agent} {options : UnpackOptions} :
    a.unpack text options = .ok u ↔
      ∃ w, a.unwrap options text = .ok w ∧ a.settleRotation w = .ok u ∧
        (∀ kid ∈ u.metadata.encryptedFrom, u.message.sender = some (Did.ofUrl kid)) ∧
        ∀ kid ∈ u.metadata.signFrom, u.message.sender = some (Did.ofUrl kid) := by
  unfold unpack
  simp only [bind_eq_ok_iff, pure_eq_ok_iff]
  constructor
  · rintro ⟨w, unwrapped, answer, settled, ⟨⟩, encryptedBy, ⟨⟩, signedBy, rfl⟩
    exact ⟨w, unwrapped, settled, checkSender_eq_ok_iff.mp encryptedBy,
      checkSender_eq_ok_iff.mp signedBy⟩
  · rintro ⟨w, unwrapped, settled, encryptedBy, signedBy⟩
    exact ⟨w, unwrapped, u, settled, (), checkSender_eq_ok_iff.mpr encryptedBy, (),
      checkSender_eq_ok_iff.mpr signedBy, rfl⟩

theorem unwrap_sound {a : Agent} {options : UnpackOptions}
    (unwrapped : a.unwrap options text = .ok w) :
    ∃ (s : Stack) (value : Json), s.layers = w.layers ∧ Nested a options text s.layers value ∧
      Message.ofWire value = .ok (w.message, w.proof) := by
  unfold unwrap at unwrapped
  split at unwrapped
  · next answer removed =>
      subst unwrapped
      obtain ⟨s, value, layers, -, nested, read⟩ := unwrapFrom_sound removed
      exact ⟨s, value, layers, nested, read⟩
  · contradiction

theorem unwrap_complete {a : Agent} {options : UnpackOptions} {s : Stack}
    (nested : Nested a options text s.layers value)
    (read : Message.ofWire value = .ok (m, proof)) (enough : s.layers.length < layerLimit text) :
    a.unwrap options text = .ok ⟨s.layers, m, proof⟩ := by
  have within : s.Within .nothing := trivial
  have removed := unwrapFrom_complete nested rfl within read enough
  unfold unwrap
  split
  · next answer found => exact Option.some.inj (found.symm.trans removed)
  · next found => exact absurd (found.symm.trans removed) (by simp)

end Agent

/-! What lies in one layer. -/

theorem Nested.opens_of_mem {a : Agent} {options : UnpackOptions} {l : Layer}
    (nested : Nested a options text layers value) (member : l ∈ layers) :
    ∃ outside inside, Opens a options outside l inside := by
  induction nested with
  | plain received => contradiction
  | layer opens nested ih =>
      rcases List.mem_cons.mp member with rfl | inner
      · exact ⟨_, _, opens⟩
      · exact ih inner

theorem Agent.checkSignatures_sound {a : Agent} {j : Jws}
    (checked : a.checkSignatures j = .ok signers) :
    (∀ s ∈ j.signatures, ∃ key, a.Publishes (Did.ofUrl s.kid) s.kid key ∧ j.Holds s key) ∧
      signers.map Prod.fst = j.signatures.map (·.kid) := by
  have each : List.Forall₂ (fun s (signer : String × SignatureAlgorithm) =>
      (∃ key, a.Publishes (Did.ofUrl s.kid) s.kid key ∧ j.Holds s key) ∧ signer.1 = s.kid)
      j.signatures signers := by
    refine (mapM_eq_ok_iff.mp checked).imp fun s signer each => ?_
    obtain ⟨algorithm, named, each⟩ := bind_eq_ok_iff.mp each
    obtain ⟨key, found, each⟩ := bind_eq_ok_iff.mp each
    obtain ⟨verified, each⟩ := check_bind_eq_ok_iff.mp each
    obtain rfl := pure_eq_ok_iff.mp each
    have published := verificationKey_sound found
    obtain ⟨signature, decoded, verifies⟩ := Jws.verify_eq_ok_iff.mp verified
    exact ⟨⟨key, published, algorithm, signature, named, decoded, verifies⟩, published.id⟩
  obtain ⟨hold, kids⟩ := (List.forall₂_and_left _ _).mp each
  exact ⟨hold, map_eq_map_of_forall₂ kids⟩

theorem Opens.signed_sound {a : Agent} {options : UnpackOptions}
    (opens : Opens a options outside (.signed text j signers) inside) :
    Jws.parse text = .ok j ∧ signers ≠ [] ∧
      (∀ s ∈ j.signatures, ∃ key, a.Publishes (Did.ofUrl s.kid) s.kid key ∧ j.Holds s key) ∧
      signers.map Prod.fst = j.signatures.map (·.kid) := by
  cases opens with
  | signed received checked decoded inside =>
      have parsed := Envelope.signed_of_ofText received
      obtain ⟨hold, kids⟩ := Agent.checkSignatures_sound checked
      refine ⟨parsed, ?_, hold, kids⟩
      rintro rfl
      have empty := List.map_eq_nil_iff.mp kids.symm
      exact (Jws.parse_eq_ok_iff.mp parsed).2 empty

namespace Stack

theorem signers_ne_nil {a : Agent} {options : UnpackOptions} {s : Stack}
    (nested : Nested a options text s.layers value) (signed : s.signed = some (t, j, signers)) :
    signers ≠ [] := by
  have member : Layer.signed t j signers ∈ s.layers := by simp [layers, kernel, signed]
  obtain ⟨outside, inside, opens⟩ := nested.opens_of_mem member
  exact opens.signed_sound.2.1

theorem isSome_signer {a : Agent} {options : UnpackOptions} {s : Stack}
    (nested : Nested a options text s.layers value) (f : String × SignatureAlgorithm → α) :
    (s.signed.bind fun (_, _, signers) => signers.head?.map f).isSome = s.signed.isSome := by
  cases signed : s.signed with
  | none => rfl
  | some layer =>
      obtain ⟨t, j, signers⟩ := layer
      cases signers with
      | nil => exact absurd rfl (signers_ne_nil nested signed)
      | cons signer signers => rfl

/-- An authenticated message has a key that encrypted or signed it. -/
theorem named_of_authenticated {a : Agent} {options : UnpackOptions} {s : Stack}
    (nested : Nested a options text s.layers value)
    (authenticated : s.metadata.authenticated = true) :
    ∃ kid, kid ∈ s.metadata.encryptedFrom ∨ kid ∈ s.metadata.signFrom := by
  rcases (Bool.or_eq_true _ _).mp authenticated with auth | signed
  · obtain ⟨⟨algorithm, kid, o⟩, auth⟩ := Option.isSome_iff_exists.mp auth
    exact ⟨kid, .inl (by simp [metadata, auth])⟩
  · rw [← isSome_signer nested Prod.fst] at signed
    obtain ⟨kid, named⟩ := Option.isSome_iff_exists.mp signed
    exact ⟨kid, .inr named⟩

end Stack

end DidMessaging

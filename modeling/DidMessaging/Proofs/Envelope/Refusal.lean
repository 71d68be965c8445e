import DidMessaging.Proofs.Envelope.Signing
import DidMessaging.Proofs.Key.Decoding
import DidMessaging.Proofs.Key.Disagreement
import DidMessaging.Proofs.Key.Pair

namespace DidMessaging

open Result

namespace SignatureAlgorithm

theorem ofCurve_eq_error_iff {curve : Curve} :
    ofCurve curve = .error e ↔ curve = .x25519 ∧ e = .unsupported (.signing .x25519) := by
  cases curve <;> simp [ofCurve, eq_comm]

theorem verify_of_weierstrass {curve : Curve} {c : Weierstrass} (goes : ofCurve curve = .ok a)
    (on : curve.weierstrass? = some c) : ∃ normalize : Bool, a.verify = verifyOn c normalize := by
  cases curve with
  | x25519 => contradiction
  | ed25519 => contradiction
  | p256 =>
      obtain rfl := Except.ok.inj goes
      obtain rfl := Option.some.inj on
      exact ⟨false, rfl⟩
  | secp256k1 =>
      obtain rfl := Except.ok.inj goes
      obtain rfl := Option.some.inj on
      exact ⟨true, rfl⟩

theorem verifyOn_eq_error_iff {c : Weierstrass} {normalize : Bool} {key data signature : Bytes} :
    verifyOn c normalize key data signature = .error e ↔
      c.decode? key = none ∧ e = .crypto .signature := by
  unfold verifyOn
  cases c.decode? key with
  | none => simp [throw, throwThe, MonadExceptOf.throw, eq_comm]
  | some s => simp [pure, Except.pure]

theorem verify_edDsa_eq_error_iff {key data signature : Bytes} (sized : key.length = 32) :
    verify .edDsa key data signature = .error e ↔
      Ed25519.decompress? key = none ∧ e = .crypto .notOnEdwardsCurve := by
  simp only [verify]
  rw [if_neg (not_not.mpr sized)]
  cases Ed25519.decompress? key with
  | none => simp [throw, throwThe, MonadExceptOf.throw, eq_comm]
  | some s => simp [pure, Except.pure]

end SignatureAlgorithm

namespace Key

variable {k : Key} {x y : Bytes}

/-- The coordinates of a key are no point to verify with. -/
inductive NoVerifier (k : Key) : CryptoFault → Prop
  | offEdwards {x : Bytes} (on : k.curve = .ed25519) (published : k.x = .ok x)
      (off : Ed25519.decompress? x = none) :
      NoVerifier k .notOnEdwardsCurve
  | offCurve {c : Weierstrass} {x y : Bytes} (on : k.curve.weierstrass? = some c)
      (abscissa : k.x = .ok x) (ordinate : k.y = .ok y)
      (off : c.point? (Bytes.toNat x) (Bytes.toNat y) = none) :
      NoVerifier k .signature

/-- Why a signature is not accepted under a key that has its coordinates. -/
inductive Refuses (k : Key) (a : SignatureAlgorithm) (input : String) (signature : Bytes) :
    Error → Prop
  | noSigning (on : k.curve = .x25519) :
      Refuses k a input signature (.unsupported (.signing .x25519))
  | otherAlgorithm {own : SignatureAlgorithm} (goes : SignatureAlgorithm.ofCurve k.curve = .ok own)
      (other : own ≠ a) :
      Refuses k a input signature (.malformed (.algorithmOfKey a.name k.curve k.id))
  | noVerifier {fault : CryptoFault} (goes : SignatureAlgorithm.ofCurve k.curve = .ok a)
      (noVerifier : k.NoVerifier fault) :
      Refuses k a input signature (.crypto fault)
  | wrong {bytes : Bytes} (goes : SignatureAlgorithm.ofCurve k.curve = .ok a)
      (published : k.verifyingBytes = .ok bytes)
      (rejected : a.verify bytes (Utf8.encode input) signature = .ok false) :
      Refuses k a input signature (.malformed (.wrongSignature k.id))

theorem Decodes.exists_verifyingBytes (decodes : k.Decodes)
    (goes : SignatureAlgorithm.ofCurve k.curve = .ok a) :
    ∃ bytes, k.verifyingBytes = .ok bytes := by
  by_cases edwards : k.curve = .ed25519
  · obtain ⟨x, published⟩ := decodes.x
    exact ⟨x, (if_pos edwards).trans published⟩
  · obtain ⟨point, published⟩ := decodes.point (planar_of_signing goes edwards)
    exact ⟨point, (if_neg edwards).trans published⟩

theorem verifyInput_of_noSigning (on : k.curve = .x25519) :
    k.verifyInput a input signature = .error (.unsupported (.signing .x25519)) := by
  refine bind_eq_error_iff.mpr (.inl ?_)
  rw [on]
  rfl

theorem verifyInput_of_otherAlgorithm (goes : SignatureAlgorithm.ofCurve k.curve = .ok own)
    (other : own ≠ a) : k.verifyInput a input signature =
      .error (.malformed (.algorithmOfKey a.name k.curve k.id)) := by
  refine bind_error_of_ok goes ?_
  rw [if_pos other]
  rfl

/-- With the octets to verify with, only the verdict of the algorithm is open. -/
theorem verifyInput_of_verifyingBytes (goes : SignatureAlgorithm.ofCurve k.curve = .ok a)
    (published : k.verifyingBytes = .ok bytes) (input : String) (signature : Bytes) :
    k.verifyInput a input signature = (do
      if ← a.verify bytes (Utf8.encode input) signature then return ()
      else throw (.malformed (.wrongSignature k.id))) := by
  unfold verifyInput
  simp only [goes, published, bind, Except.bind, ne_eq, not_true_eq_false, if_false]

theorem verify_edDsa_eq_error_iff_noVerifier (on : k.curve = .ed25519)
    (published : k.x = .ok x) (data signature : Bytes) :
    SignatureAlgorithm.edDsa.verify x data signature = .error e ↔
      ∃ fault, e = .crypto fault ∧ k.NoVerifier fault := by
  rw [SignatureAlgorithm.verify_edDsa_eq_error_iff (length_of_coordinate published)]
  constructor
  · rintro ⟨off, rfl⟩
    exact ⟨_, rfl, .offEdwards on published off⟩
  · rintro ⟨fault, rfl, noVerifier⟩
    cases noVerifier with
    | offEdwards _ published' off =>
        obtain rfl := Except.ok.inj (published.symm.trans published')
        exact ⟨off, rfl⟩
    | offCurve planar =>
        rw [on] at planar
        contradiction

theorem verifyOn_eq_error_iff_noVerifier {c : Weierstrass} (on : k.curve.weierstrass? = some c)
    (abscissa : k.x = .ok x) (ordinate : k.y = .ok y) (normalize : Bool) (data signature : Bytes) :
    SignatureAlgorithm.verifyOn c normalize (4 :: x ++ y) data signature = .error e ↔
      ∃ fault, e = .crypto fault ∧ k.NoVerifier fault := by
  rw [SignatureAlgorithm.verifyOn_eq_error_iff,
    decode?_uncompressed (length_of_coordinate abscissa) (length_of_y ordinate)]
  constructor
  · rintro ⟨off, rfl⟩
    exact ⟨_, rfl, .offCurve on abscissa ordinate off⟩
  · rintro ⟨fault, rfl, noVerifier⟩
    cases noVerifier with
    | offEdwards edwards =>
        rw [edwards] at on
        contradiction
    | offCurve on' abscissa' ordinate' off =>
        obtain rfl := Option.some.inj (on.symm.trans on')
        obtain rfl := Except.ok.inj (abscissa.symm.trans abscissa')
        obtain rfl := Except.ok.inj (ordinate.symm.trans ordinate')
        exact ⟨off, rfl⟩

/-- An algorithm comes to no verdict just where the coordinates are no point of the curve. -/
theorem verify_eq_error_iff (goes : SignatureAlgorithm.ofCurve k.curve = .ok a)
    (published : k.verifyingBytes = .ok bytes) (data signature : Bytes) :
    a.verify bytes data signature = .error e ↔ ∃ fault, e = .crypto fault ∧ k.NoVerifier fault := by
  by_cases edwards : k.curve = .ed25519
  · have x : k.x = .ok bytes := (if_pos edwards).symm.trans published
    have own := goes
    rw [edwards] at own
    obtain rfl := Except.ok.inj own
    exact verify_edDsa_eq_error_iff_noVerifier edwards x data signature
  · obtain ⟨c, on⟩ := Curve.exists_weierstrass (planar_of_signing goes edwards)
    obtain ⟨normalize, same⟩ := SignatureAlgorithm.verify_of_weierstrass goes on
    have point : k.point = .ok bytes := (if_neg edwards).symm.trans published
    obtain ⟨x, abscissa, point⟩ := bind_eq_ok_iff.mp point
    obtain ⟨y, ordinate, point⟩ := bind_eq_ok_iff.mp point
    obtain rfl := pure_eq_ok_iff.mp point
    rw [same]
    exact verifyOn_eq_error_iff_noVerifier on abscissa ordinate normalize data signature

/-- All the ways in which a verification fails; none of them is that a coordinate cannot be read. -/
theorem verifyInput_eq_error_iff (decodes : k.Decodes) :
    k.verifyInput a input signature = .error e ↔ k.Refuses a input signature e := by
  constructor
  · intro fails
    cases goes : SignatureAlgorithm.ofCurve k.curve with
    | error failure =>
        obtain ⟨on, -⟩ := SignatureAlgorithm.ofCurve_eq_error_iff.mp goes
        rw [verifyInput_of_noSigning on] at fails
        obtain rfl := Except.error.inj fails
        exact .noSigning on
    | ok own =>
        by_cases same : own = a
        · subst same
          obtain ⟨bytes, published⟩ := decodes.exists_verifyingBytes goes
          rw [verifyInput_of_verifyingBytes goes published, bind_eq_error_iff,
            verify_eq_error_iff goes published] at fails
          rcases fails with ⟨fault, rfl, noVerifier⟩ | ⟨holds, verified, fails⟩
          · exact .noVerifier goes noVerifier
          · cases holds with
            | true => contradiction
            | false =>
                obtain rfl := Except.error.inj fails
                exact .wrong goes published verified
        · rw [verifyInput_of_otherAlgorithm goes same] at fails
          obtain rfl := Except.error.inj fails
          exact .otherAlgorithm goes same
  · intro refuses
    cases refuses with
    | noSigning on => exact verifyInput_of_noSigning on
    | otherAlgorithm goes other => exact verifyInput_of_otherAlgorithm goes other
    | noVerifier goes noVerifier =>
        obtain ⟨bytes, published⟩ := decodes.exists_verifyingBytes goes
        have fails := (verify_eq_error_iff goes published (Utf8.encode input) signature).mpr
          ⟨_, rfl, noVerifier⟩
        rw [verifyInput_of_verifyingBytes goes published]
        exact bind_eq_error_iff.mpr (.inl fails)
    | wrong goes published rejected =>
        rw [verifyInput_of_verifyingBytes goes published]
        exact bind_error_of_ok rejected rfl

/-- However a key was made, it has what its curve says, and a private part just if it is private, as
keys are that are stored or fresh. A verification with it, or an agreement with it if it is private,
fails only for one of the reasons listed, among which there is no coordinate that cannot be read. -/
theorem decodes_of_made (made : k.Made) :
    k.Decodes ∧
    (∀ s, ofSecret s = .ok k → k.isPrivate = true) ∧
    (∀ on e e', ephemeral on e = .ok (k, e') → k.isPrivate = true) ∧
    (∀ j s a e, Jws.verify j s a k = .error e ↔
      decodeBase64Url s.signature = .error e ∨
        ∃ signature, decodeBase64Url s.signature = .ok signature ∧
          k.Refuses a (signingInput s.header j.payload) signature e) ∧
    (∀ j e, CompactJws.verify j k = .error e ↔
      SignatureAlgorithm.ofName j.header.alg = .error e ∨
        ∃ a, SignatureAlgorithm.ofName j.header.alg = .ok a ∧
          k.Refuses a j.signed j.signature e) ∧
    ∀ other, other.Made → k.isPrivate = true →
      ∀ e, k.agree other = .error e ↔ k.Disagrees other e := by
  have decodes := made.decodes
  refine ⟨decodes, fun _ => isPrivate_of_ofSecret, fun _ _ _ => isPrivate_of_ephemeral, ?_, ?_, ?_⟩
  · intro j s a e
    simp only [Jws.verify, bind_eq_error_iff, verifyInput_eq_error_iff decodes]
  · intro j e
    simp only [CompactJws.verify, bind_eq_error_iff, verifyInput_eq_error_iff decodes]
  · intro other otherMade whole e
    obtain ⟨d, secret⟩ := decodes.d.mpr whole
    exact agree_eq_error_iff secret otherMade.decodes.checkCoordinates

/-- The pair on P-256 of which the public point is the base point. -/
def basePair : Key where
  id := "did:example:bob#2"
  curve := .p256
  jwk := {
    kty := Curve.p256.keyType
    crv := Curve.p256.name
    x := Base64Url.encode (Bytes.ofNat 32 Weierstrass.p256.baseX)
    y := some (Base64Url.encode (Bytes.ofNat 32 Weierstrass.p256.baseY))
    d := some (Base64Url.encode (Bytes.ofNat 32 1)) }

theorem ofJwk_basePair : ofJwk basePair.id basePair.jwk = .ok basePair := by
  have read (name : String) (n : Nat) : coordinate basePair.id name
      (Base64Url.encode (Bytes.ofNat 32 n)) = .ok (Bytes.ofNat 32 n) :=
    coordinate_eq_ok_iff.mpr ⟨decodeBase64Url_encode _, Bytes.length_ofNat _ _⟩
  refine ofJwk_eq_ok_iff.mpr ⟨.p256, rfl, rfl, checkCoordinates_eq_ok_iff.mpr ?_, rfl⟩
  exact ⟨⟨_, read "x" _⟩, fun _ => ⟨_, read "y" _⟩, fun _ => ⟨_, read "d" _⟩⟩

/-- A fresh key, a pair with two coordinates and its public half. -/
theorem decodes_of_made_fresh :
    (uniform "" 1).Decodes ∧ (uniform "" 1).isPrivate = true ∧ basePair.Decodes ∧
      basePair.toPublic.Decodes ∧ (uniform "" 1).agree basePair.toPublic =
        .error (.incompatible (.keys .x25519 "" .p256 "did:example:bob#2")) := by
  have pair : basePair.Made := .jwk ofJwk_basePair
  obtain ⟨fresh, -, drawn, -, -, agreement⟩ := decodes_of_made (.drawn (ephemeral_uniform 1))
  have whole := drawn _ _ _ (ephemeral_uniform 1)
  have apart := (agreement basePair.toPublic (.half pair) whole _).mpr (.apart nofun)
  exact ⟨fresh, whole, (decodes_of_made pair).1, (decodes_of_made (.half pair)).1, apart⟩

end Key

end DidMessaging

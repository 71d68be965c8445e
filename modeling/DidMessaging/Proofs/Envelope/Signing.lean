import DidMessaging.Proofs.Envelope.Signature
import DidMessaging.Proofs.Envelope.Text
import DidMessaging.Proofs.Key.Basic

namespace DidMessaging

open Result

namespace Key

/-- A signature of the data that is made with a key holds under the coordinates of the key. That it
does is what users take from the curves. -/
def SignsFor (k : Key) (data : Bytes) : Prop :=
  ∀ a d signature bytes, SignatureAlgorithm.ofCurve k.curve = .ok a → k.d = .ok d →
    a.sign d data = .ok signature → k.verifyingBytes = .ok bytes →
    a.verify bytes data signature = .ok true

theorem planar_of_signing {k : Key} (algorithm : SignatureAlgorithm.ofCurve k.curve = .ok a)
    (other : k.curve ≠ .ed25519) : k.curve.planar = true := by
  cases curve : k.curve with
  | ed25519 => contradiction
  | x25519 => simp [curve, SignatureAlgorithm.ofCurve] at algorithm
  | p256 => rfl
  | secp256k1 => rfl

theorem exists_verifyingBytes {jwk : Jwk} {k : Key} (made : ofJwk kid jwk = .ok k)
    (algorithm : SignatureAlgorithm.ofCurve k.curve = .ok a) :
    ∃ bytes, k.verifyingBytes = .ok bytes := by
  obtain ⟨curve, -, -, checked, rfl⟩ := ofJwk_eq_ok_iff.mp made
  obtain ⟨⟨x, hasX⟩, hasY, -⟩ := checkCoordinates_eq_ok_iff.mp checked
  by_cases edwards : curve = .ed25519
  · exact ⟨x, (if_pos edwards).trans hasX⟩
  · obtain ⟨y, hasY⟩ := hasY (planar_of_signing algorithm edwards)
    refine ⟨4 :: x ++ y, (if_neg edwards).trans ?_⟩
    exact bind_eq_ok_iff.mpr ⟨x, hasX, bind_eq_ok_iff.mpr ⟨y, hasY, rfl⟩⟩

theorem SamePoint.verifyingBytes {k k' : Key} (same : k.SamePoint k')
    (algorithm : SignatureAlgorithm.ofCurve k.curve = .ok a)
    (found : k.verifyingBytes = .ok bytes) : k'.verifyingBytes = .ok bytes := by
  unfold Key.verifyingBytes at found ⊢
  rw [same.curve]
  split at found
  · next edwards => exact (if_pos edwards).trans (same.x bytes found)
  · next other =>
      exact (if_neg other).trans (same.point (planar_of_signing algorithm other) found)

end Key

/-! Keys whose halves belong together. -/

namespace SignatureAlgorithm

def publicOn? (c : Weierstrass) (d : Bytes) : Option Bytes :=
  (c.scalar? d).map fun n => let (x, y) := c.publicKey n; Weierstrass.encode x y

/-- The public octets that belong to private ones. -/
def publicOf? : SignatureAlgorithm → Bytes → Option Bytes
  | .edDsa, d => some (Ed25519.publicKey d)
  | .es256, d => publicOn? .p256 d
  | .es256k, d => publicOn? .secp256k1 d

/-- The algorithm finds a signature of the data, which only ECDSA might not, and accepts it under
the public octets that belong to the private ones. -/
structure Correct (a : SignatureAlgorithm) (d data : Bytes) : Prop where
  signs : a ≠ .edDsa → ∃ signature, a.sign d data = .ok signature
  verifies : ∀ bytes signature, a.publicOf? d = some bytes → a.sign d data = .ok signature →
    a.verify bytes data signature = .ok true

theorem sign_edDsa {d : Bytes} (sized : d.length = 32) (data : Bytes) :
    sign .edDsa d data = .ok (Ed25519.sign d data) :=
  if_pos sized

theorem Correct.edDsa {d data : Bytes} (sized : d.length = 32)
    (holds : verify .edDsa (Ed25519.publicKey d) data (Ed25519.sign d data) = .ok true) :
    Correct .edDsa d data where
  signs := nofun
  verifies := by
    intro bytes signature belongs signed
    obtain rfl := Option.some.inj belongs
    obtain rfl := Except.ok.inj (signed.symm.trans (sign_edDsa sized data))
    exact holds

theorem Correct.exists_sign {a : SignatureAlgorithm} (correct : a.Correct d data)
    (sized : d.length = 32) : ∃ signature, a.sign d data = .ok signature := by
  by_cases edwards : a = .edDsa
  · subst edwards
    exact ⟨_, sign_edDsa sized data⟩
  · exact correct.signs edwards

end SignatureAlgorithm

namespace Key

/-- A key that signs with an algorithm and private octets, to which its public half belongs. -/
structure Signs (k : Key) (a : SignatureAlgorithm) (d : Bytes) : Prop where
  algorithm : SignatureAlgorithm.ofCurve k.curve = .ok a
  secret : k.d = .ok d
  paired : ∃ bytes, k.verifyingBytes = .ok bytes ∧ a.publicOf? d = some bytes

namespace Signs

variable {k : Key} {a : SignatureAlgorithm} {d data : Bytes}

theorem length_d (signs : k.Signs a d) : d.length = 32 := by
  have found := signs.secret
  unfold Key.d at found
  split at found
  · exact (coordinate_eq_ok_iff.mp found).2
  · contradiction

theorem signsFor (signs : k.Signs a d) (correct : a.Correct d data) : k.SignsFor data := by
  intro a' d' signature bytes algorithm found signed verifying
  obtain rfl := Except.ok.inj (signs.algorithm.symm.trans algorithm)
  obtain rfl := Except.ok.inj (signs.secret.symm.trans found)
  obtain ⟨bytes', verifying', belongs⟩ := signs.paired
  obtain rfl := Except.ok.inj (verifying'.symm.trans verifying)
  exact correct.verifies _ signature belongs signed

theorem exists_verifyingBytes (signs : k.Signs a d) : ∃ bytes, k.verifyingBytes = .ok bytes :=
  signs.paired.imp fun _ paired => paired.1

end Signs

end Key

/-! What is signed, without strings in between. -/

theorem Json.encode_text (j : Json) : Utf8.encode j.text = j.chars.flatMap Utf8.encodeChar := by
  simp [Utf8.encode, Json.text]

theorem encode_signingInput (header payload : Bytes) :
    Utf8.encode (signingInput (Base64Url.encode header) (Base64Url.encode payload)) =
      (Base64Url.radix.encode header ++ '.' :: Base64Url.radix.encode payload).flatMap
        Utf8.encodeChar := by
  simp [Utf8.encode, signingInput, Base64Url.encode]

namespace Jws

variable {payload : Bytes}

/-- The header that stands in front of what is signed. -/
def headerText (a : SignatureAlgorithm) : String :=
  Base64Url.encode (Utf8.encode (Header.json ⟨MediaType.signed.name, a.name⟩).text)

theorem sign_eq_ok {key : Key} (algorithm : SignatureAlgorithm.ofCurve key.curve = .ok a)
    (found : key.d = .ok d)
    (signs : a.sign d (Utf8.encode (signingInput (headerText a) (Base64Url.encode payload))) =
      .ok signature) :
    sign payload key =
      .ok ⟨Base64Url.encode payload, [⟨headerText a, Base64Url.encode signature, key.id⟩]⟩ :=
  bind_eq_ok_iff.mpr ⟨a, algorithm, bind_eq_ok_iff.mpr
    ⟨signature, bind_eq_ok_iff.mpr ⟨d, found, signs⟩, rfl⟩⟩

theorem sign_sound {key : Key} (signs : sign payload key = .ok j) :
    ∃ a d signature, SignatureAlgorithm.ofCurve key.curve = .ok a ∧ key.d = .ok d ∧
      a.sign d (Utf8.encode (signingInput (headerText a) (Base64Url.encode payload))) =
        .ok signature ∧
      j = ⟨Base64Url.encode payload, [⟨headerText a, Base64Url.encode signature, key.id⟩]⟩ := by
  unfold sign at signs
  obtain ⟨a, algorithm, signs⟩ := bind_eq_ok_iff.mp signs
  obtain ⟨signature, made, signs⟩ := bind_eq_ok_iff.mp signs
  obtain ⟨d, found, made⟩ := bind_eq_ok_iff.mp made
  exact ⟨a, d, signature, algorithm, found, made, (pure_eq_ok_iff.mp signs).symm⟩

theorem algorithm_headerText (a : SignatureAlgorithm) (signature kid : String) :
    Signature.algorithm ⟨headerText a, signature, kid⟩ = .ok a := by
  unfold Signature.algorithm
  refine bind_eq_ok_iff.mpr ⟨_, Header.decode_encode _, ?_⟩
  simp only [SignatureAlgorithm.ofName, SignatureAlgorithm.named?_eq_some_iff.mpr rfl]

/-- The one signature of an envelope holds under every key with the coordinates of the signer's. -/
theorem verify_of_sign {key published : Key}
    (verifies : ∀ a, SignatureAlgorithm.ofCurve key.curve = .ok a →
      ∃ bytes, key.verifyingBytes = .ok bytes)
    (same : key.SamePoint published) (signs : sign payload key = .ok j)
    (correct : ∀ s ∈ j.signatures, key.SignsFor (Utf8.encode (signingInput s.header j.payload))) :
    ∃ s a, j = ⟨Base64Url.encode payload, [s]⟩ ∧ s.kid = key.id ∧
      SignatureAlgorithm.ofCurve key.curve = .ok a ∧ s.algorithm = .ok a ∧
      j.verify s a published = .ok () := by
  obtain ⟨a, d, signature, algorithm, found, signed, rfl⟩ := sign_sound signs
  obtain ⟨bytes, verifying⟩ := verifies a algorithm
  refine ⟨_, a, rfl, rfl, algorithm, algorithm_headerText a _ _,
    verify_eq_ok_iff.mpr ⟨signature, decodeBase64Url_encode signature, ?_⟩⟩
  refine ⟨by rwa [same.curve], bytes, same.verifyingBytes algorithm verifying, ?_⟩
  exact correct _ List.mem_cons_self a d signature bytes algorithm found signed verifying

end Jws

end DidMessaging

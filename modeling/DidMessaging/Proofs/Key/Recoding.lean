import DidMessaging.Key.Material
import DidMessaging.Proofs.Envelope.Text
import DidMessaging.Proofs.Key.Basic
import DidMessaging.Proofs.Text.Multibase

namespace DidMessaging

/-- The method publishes the one coordinate of a key on its curve. Multibase text begins with the
two octets that say which curve it is. -/
inductive VerificationMethod.Carries : VerificationMethod → Curve → Bytes → Prop
  | jwk (linear : curve.planar = false)
      (whole : members.Perm [("kty", .string curve.keyType), ("crv", .string curve.name),
        ("x", .string (Base64Url.encode raw))]) :
      Carries ⟨kid, .jsonWebKey2020, owner, .jwk (.object members)⟩ curve raw
  | x25519Base58 :
      Carries ⟨kid, .x25519KeyAgreementKey2019, owner, .base58 (Base58.encode raw)⟩
        .x25519 raw
  | ed25519Base58 :
      Carries ⟨kid, .ed25519VerificationKey2018, owner, .base58 (Base58.encode raw)⟩
        .ed25519 raw
  | x25519Multibase (named : Multibase.named? c = some base)
      (written : base.Writes cs (Key.x25519Code :: 1 :: raw)) :
      Carries ⟨kid, .x25519KeyAgreementKey2020, owner, .multibase (String.ofList (c :: cs))⟩
        .x25519 raw
  | ed25519Multibase (named : Multibase.named? c = some base)
      (written : base.Writes cs (Key.ed25519Code :: 1 :: raw)) :
      Carries ⟨kid, .ed25519VerificationKey2020, owner, .multibase (String.ofList (c :: cs))⟩
        .ed25519 raw

namespace Key

open Result

/-- The public key of a coordinate. -/
def ofCoordinate (id : String) (curve : Curve) (x : Bytes) : Key :=
  ⟨id, curve, ⟨curve.keyType, curve.name, Base64Url.encode x, none, none⟩⟩

variable {curve : Curve} {raw : Bytes}

theorem ofRaw_eq_ok_iff (linear : curve.planar = false) {id : String} {k : Key} :
    ofRaw id curve raw = .ok k ↔ raw.length = 32 ∧ k = ofCoordinate id curve raw := by
  have x (bytes : Bytes) :
      (ofCoordinate id curve raw).x = .ok bytes ↔ raw = bytes ∧ bytes.length = 32 := by
    rw [Key.x, coordinate_eq_ok_iff, ofCoordinate, decodeBase64Url_encode, Except.ok.injEq]
  have checked : (ofCoordinate id curve raw).checkCoordinates = .ok () ↔ raw.length = 32 := by
    simp only [checkCoordinates_eq_ok_iff, x]
    simp [ofCoordinate, linear, isPrivate]
  unfold ofRaw
  rw [ofJwk_eq_ok_iff]
  constructor
  · rintro ⟨curve', named, -, coordinates, rfl⟩
    obtain rfl : curve = curve' :=
      Option.some.inj ((Curve.named?_eq_some_iff.mpr rfl).symm.trans named)
    exact ⟨checked.mp coordinates, rfl⟩
  · rintro ⟨sized, rfl⟩
    exact ⟨curve, Curve.named?_eq_some_iff.mpr rfl, rfl, checked.mpr sized, rfl⟩

theorem decodeBase58_eq_ok_iff :
    decodeBase58 text = .ok raw ↔ text = Base58.encode raw ∧ raw.length ≤ Base58.limit := by
  rw [← Base58.decode?_eq_some_iff, decodeBase58]
  cases Base58.decode? text <;> simp

theorem decodeMulticodec_eq_ok_iff :
    decodeMulticodec code text = .ok raw ↔ ∃ c cs base, text = String.ofList (c :: cs) ∧
      Multibase.named? c = some base ∧ base.Writes cs (code :: 1 :: raw) := by
  have read : decodeMulticodec code text = .ok raw ↔
      Multibase.decode? text = some (code :: 1 :: raw) := by
    unfold decodeMulticodec
    split
    · next refused => simp [refused]
    · next first second rest decoded =>
        rw [decoded]
        constructor
        · intro read
          split at read
          · next marked =>
              obtain ⟨rfl, rfl⟩ := marked
              rw [Except.ok.inj read]
          · contradiction
        · intro same
          obtain ⟨rfl, rfl, rfl⟩ : first = code ∧ second = 1 ∧ rest = raw := by simpa using same
          exact if_pos ⟨rfl, rfl⟩
    · next octets few decoded =>
        rw [decoded]
        exact ⟨nofun, fun same => (few _ _ _ (Option.some.inj same)).elim⟩
  rw [read, Multibase.decode?_eq_some_iff]
  simp only [← String.toList_inj, String.toList_ofList]

/-- Whichever form a method has, it is read as the key of the coordinate that it carries. -/
theorem ofMethod_of_carries {m : VerificationMethod} (carries : m.Carries curve raw)
    (sized : raw.length = 32) : ofMethod m = .ok (ofCoordinate m.id curve raw) := by
  have short : raw.length ≤ Base58.limit := sized ▸ by decide
  cases carries with
  | jwk linear whole =>
      -- A key may be given in any order of its members.
      have read := Jwk.read?_of_perm
        (k := ⟨curve.keyType, curve.name, Base64Url.encode raw, none, none⟩) whole
      dsimp only [ofMethod]
      rw [ofJson, read]
      exact (ofRaw_eq_ok_iff linear).mpr ⟨sized, rfl⟩
  | x25519Base58 | ed25519Base58 =>
      exact bind_eq_ok_iff.mpr ⟨raw, decodeBase58_eq_ok_iff.mpr ⟨rfl, short⟩,
        (ofRaw_eq_ok_iff rfl).mpr ⟨sized, rfl⟩⟩
  | x25519Multibase named written | ed25519Multibase named written =>
      exact bind_eq_ok_iff.mpr
        ⟨raw, decodeMulticodec_eq_ok_iff.mpr ⟨_, _, _, rfl, named, written⟩,
          (ofRaw_eq_ok_iff rfl).mpr ⟨sized, rfl⟩⟩

/-- What is not a JSON Web Key is read as a key only if it carries the coordinate of it. -/
theorem carries_of_ofMethod {m : VerificationMethod} {k : Key} (made : ofMethod m = .ok k)
    (textual : m.type ≠ .jsonWebKey2020) :
    ∃ raw, raw.length = 32 ∧ m.Carries k.curve raw ∧ k = ofCoordinate m.id k.curve raw := by
  obtain ⟨kid, type, owner, material⟩ := m
  match type, material, made with
  | .x25519KeyAgreementKey2019, .base58 text, made
  | .ed25519VerificationKey2018, .base58 text, made =>
      obtain ⟨raw, decoded, made⟩ := bind_eq_ok_iff.mp made
      obtain ⟨rfl, -⟩ := decodeBase58_eq_ok_iff.mp decoded
      obtain ⟨sized, rfl⟩ := (ofRaw_eq_ok_iff rfl).mp made
      exact ⟨raw, sized, by constructor, rfl⟩
  | .x25519KeyAgreementKey2020, .multibase text, made
  | .ed25519VerificationKey2020, .multibase text, made =>
      obtain ⟨raw, decoded, made⟩ := bind_eq_ok_iff.mp made
      obtain ⟨c, cs, base, rfl, named, written⟩ := decodeMulticodec_eq_ok_iff.mp decoded
      obtain ⟨sized, rfl⟩ := (ofRaw_eq_ok_iff rfl).mp made
      exact ⟨raw, sized, by constructor <;> assumption, rfl⟩

end Key

end DidMessaging

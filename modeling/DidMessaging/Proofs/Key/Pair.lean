import DidMessaging.Key.Material
import DidMessaging.Proofs.Envelope.Signing
import DidMessaging.Proofs.Key.Agreement

namespace DidMessaging.Key

open Result

/-! Halves. -/

/-- The verification method that publishes a key. -/
def method (k : Key) (controller : String) : VerificationMethod :=
  ⟨k.id, .jsonWebKey2020, controller, .jwk k.jwk.toPublic.json⟩

/-- The secret that keeps a key. -/
def secret (k : Key) : Secret := ⟨k.id, .jsonWebKey2020, .jwk k.jwk.json⟩

theorem ofJson_json {id : String} (jwk : Jwk) : ofJson id jwk.json = ofJwk id jwk := by
  rw [ofJson, jwk.read?_json]

theorem ofMethod_method {k : Key} (made : ofJwk k.id k.jwk = .ok k) (controller : String) :
    ofMethod (k.method controller) = .ok k.toPublic :=
  (ofJson_json k.jwk.toPublic).trans (ofJwk_toPublic made k.id)

theorem ofSecret_secret {k : Key} (made : ofJwk k.id k.jwk = .ok k) (whole : k.isPrivate = true) :
    ofSecret k.secret = .ok k :=
  bind_eq_ok_iff.mpr ⟨k, (ofJson_json k.jwk).trans made, if_pos whole⟩

/-! Pairs on a curve with one coordinate. -/

/-- The key of a coordinate and of the private octets that it belongs to. -/
def pair (curve : Curve) (id : String) (x d : Bytes) : Key :=
  ⟨id, curve, ⟨curve.keyType, curve.name, Base64Url.encode x, none, some (Base64Url.encode d)⟩⟩

variable {curve : Curve} {id : String} {x d : Bytes}

theorem x_pair (sized : x.length = 32) : (pair curve id x d).x = .ok x :=
  coordinate_eq_ok_iff.mpr ⟨decodeBase64Url_encode x, sized⟩

theorem d_pair (sized : d.length = 32) : (pair curve id x d).d = .ok d :=
  coordinate_eq_ok_iff.mpr ⟨decodeBase64Url_encode d, sized⟩

theorem ofJwk_pair (linear : curve.planar = false) (sizedX : x.length = 32)
    (sizedD : d.length = 32) (id other : String) :
    ofJwk other (pair curve id x d).jwk = .ok (pair curve other x d) := by
  refine ofJwk_eq_ok_iff.mpr ⟨curve, ?_, rfl, checkCoordinates_eq_ok_iff.mpr
    ⟨⟨x, x_pair sizedX⟩, by simp [linear], fun _ => ⟨d, d_pair sizedD⟩⟩, rfl⟩
  cases curve <;> rfl

theorem ofMethod_pair (linear : curve.planar = false) (sizedX : x.length = 32)
    (sizedD : d.length = 32) (controller : String) :
    ofMethod ((pair curve id x d).method controller) = .ok (pair curve id x d).toPublic :=
  ofMethod_method (ofJwk_pair linear sizedX sizedD id id) controller

theorem ofSecret_pair (linear : curve.planar = false) (sizedX : x.length = 32)
    (sizedD : d.length = 32) : ofSecret (pair curve id x d).secret = .ok (pair curve id x d) :=
  ofSecret_secret (ofJwk_pair linear sizedX sizedD id id) rfl

theorem signs_pair (sized : d.length = 32) :
    (pair .ed25519 id (Ed25519.publicKey d) d).Signs .edDsa d where
  algorithm := rfl
  secret := d_pair sized
  paired := ⟨_, x_pair (Ed25519.length_publicKey d), rfl⟩

theorem ephemeral_x25519 (e : Entropy) :
    ephemeral .x25519 e =
      .ok (pair .x25519 "" (X25519.publicKey (e.take 32).1) (e.take 32).1, (e.take 32).2) := by
  have linear : Curve.x25519.planar = false := rfl
  have made := ofJwk_pair linear (X25519.length_publicKey (e.take 32).1)
    (Entropy.length_take 32 e) "" ""
  exact Drawn.bind_eq_ok_iff.mpr ⟨_, _, rfl, Drawn.lift_eq_ok_iff.mpr ⟨made, rfl⟩⟩

/-- Pairs share what the curve gives for their octets, unless that is nothing. -/
theorem agree_pair_eq_ok_iff {id' : String} {x' d' : Bytes} (sizedD : d.length = 32)
    (sizedX : x'.length = 32) :
    (pair .x25519 id x d).agree (pair .x25519 id' x' d') = .ok z ↔
      X25519.agree d x' = z ∧ z ≠ Bytes.zeros 32 := by
  have foundD : (pair .x25519 id x d).d = .ok d := d_pair sizedD
  have foundX : (pair .x25519 id' x' d').x = .ok x' := x_pair sizedX
  unfold agree
  simp only [ite_throw_eq_ok_iff, not_not]
  constructor
  · rintro ⟨-, agrees⟩
    obtain ⟨d₁, foundD₁, agrees⟩ := bind_eq_ok_iff.mp agrees
    obtain ⟨x₁, foundX₁, agrees⟩ := bind_eq_ok_iff.mp agrees
    obtain rfl := Except.ok.inj (foundD.symm.trans foundD₁)
    obtain rfl := Except.ok.inj (foundX.symm.trans foundX₁)
    obtain ⟨contributes, agrees⟩ := ite_throw_eq_ok_iff.mp agrees
    obtain rfl := pure_eq_ok_iff.mp agrees
    exact ⟨rfl, contributes⟩
  · rintro ⟨rfl, contributes⟩
    refine ⟨rfl, bind_eq_ok_iff.mpr ⟨d, foundD, bind_eq_ok_iff.mpr ⟨x', foundX, ?_⟩⟩⟩
    exact ite_throw_eq_ok_iff.mpr ⟨contributes, rfl⟩

theorem commutes_pair {id' : String} {x' d' : Bytes} (sizedX : x.length = 32)
    (sizedD : d.length = 32) (sizedX' : x'.length = 32) (sizedD' : d'.length = 32)
    (shared : X25519.agree d x' = X25519.agree d' x) :
    (pair .x25519 id x d).Commutes (pair .x25519 id' x' d') := by
  intro z agrees
  rw [agree_pair_eq_ok_iff sizedD sizedX', shared] at agrees
  exact (agree_pair_eq_ok_iff sizedD' sizedX).mpr agrees

/-! Pairs that can be written down. -/

/-- The pair whose private octets are all the same. -/
def uniform (id : String) (octet : UInt8) : Key :=
  .pair .x25519 id (X25519.publicKey (List.replicate 32 octet)) (List.replicate 32 octet)

variable {octet octet' : UInt8}

theorem ofMethod_uniform (id : String) (octet : UInt8) (controller : String) :
    ofMethod ((uniform id octet).method controller) = .ok (uniform id octet).toPublic :=
  ofMethod_pair rfl (X25519.length_publicKey _) List.length_replicate controller

theorem exists_agree_uniform (id id' : String)
    (contributes : X25519.agree (List.replicate 32 octet)
      (X25519.publicKey (List.replicate 32 octet')) ≠ Bytes.zeros 32) :
    ∃ z, (uniform id octet).agree (uniform id' octet').toPublic = .ok z := by
  have same : (uniform id' octet').SamePoint (uniform id' octet').toPublic :=
    samePoint_of_jwk rfl rfl rfl
  have agrees : (uniform id octet).agree (uniform id' octet') =
      .ok (X25519.agree (List.replicate 32 octet) (X25519.publicKey (List.replicate 32 octet'))) :=
    (agree_pair_eq_ok_iff List.length_replicate (X25519.length_publicKey _)).mpr ⟨rfl, contributes⟩
  exact ⟨_, agree_of_samePoint same agrees⟩

theorem commutes_uniform (id id' : String)
    (shared : X25519.agree (List.replicate 32 octet)
        (X25519.publicKey (List.replicate 32 octet')) =
      X25519.agree (List.replicate 32 octet') (X25519.publicKey (List.replicate 32 octet))) :
    (uniform id octet).Commutes (uniform id' octet') :=
  commutes_pair (X25519.length_publicKey _) List.length_replicate (X25519.length_publicKey _)
    List.length_replicate shared

/-- A stream of one octet gives the pair of that octet. -/
theorem ephemeral_uniform (octet : UInt8) :
    ephemeral .x25519 (.ofStream fun _ => octet) =
      .ok (uniform "" octet, ((Entropy.ofStream fun _ => octet).take 32).2) :=
  ephemeral_x25519 (.ofStream fun _ => octet)

end DidMessaging.Key

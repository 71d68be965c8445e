import DidMessaging.Proofs.Key.Agreement

namespace DidMessaging.Key

open Result

/-- A key says what curve it is on and has what belongs to a key of that curve. -/
structure Decodes (k : Key) : Prop where
  curve : k.jwk.crv = k.curve.name
  keyType : k.jwk.kty = k.curve.keyType
  x : ∃ x, k.x = .ok x
  y : k.curve.planar = true → ∃ y, k.y = .ok y
  point : k.curve.planar = true → ∃ point, k.point = .ok point
  d : (∃ d, k.d = .ok d) ↔ k.isPrivate = true

/-- A key that was read, drawn or made from a JSON Web Key, and the public half of one. -/
inductive Made : Key → Prop
  | published (made : ofMethod m = .ok k) : Made k
  | stored (made : ofSecret s = .ok k) : Made k
  | jwk {jwk : Jwk} (made : ofJwk kid jwk = .ok k) : Made k
  | drawn (drawn : ephemeral on e = .ok (k, e')) : Made k
  | half (whole : Made k) : Made k.toPublic

variable {k : Key} {jwk : Jwk} {d : Bytes}

theorem isPrivate_of_d (found : k.d = .ok d) : k.isPrivate = true := by
  unfold Key.d at found
  split at found
  · next given => exact Option.isSome_iff_exists.mpr ⟨_, given⟩
  · contradiction

theorem decodes_of_ofJwk (made : ofJwk kid jwk = .ok k) : k.Decodes := by
  obtain ⟨curve, named, keyType, checked, rfl⟩ := ofJwk_eq_ok_iff.mp made
  obtain ⟨⟨x, hasX⟩, hasY, hasD⟩ := checkCoordinates_eq_ok_iff.mp checked
  refine ⟨Curve.named?_eq_some_iff.mp named, keyType, ⟨x, hasX⟩, hasY, fun planar => ?_, ?_⟩
  · obtain ⟨y, hasY⟩ := hasY planar
    exact ⟨4 :: x ++ y, bind_eq_ok_iff.mpr ⟨x, hasX, bind_eq_ok_iff.mpr ⟨y, hasY, rfl⟩⟩⟩
  · exact ⟨fun ⟨d, found⟩ => isPrivate_of_d found, hasD⟩

theorem Decodes.toPublic (decodes : k.Decodes) : k.toPublic.Decodes where
  curve := decodes.curve
  keyType := decodes.keyType
  x := decodes.x
  y := decodes.y
  point := decodes.point
  d := ⟨fun ⟨_, found⟩ => isPrivate_of_d found, nofun⟩

theorem Made.decodes (made : k.Made) : k.Decodes := by
  induction made with
  | published made =>
      obtain ⟨jwk, made⟩ := ofJwk_of_ofMethod made
      exact decodes_of_ofJwk made
  | stored made =>
      obtain ⟨jwk, made⟩ := ofJwk_of_ofSecret made
      exact decodes_of_ofJwk made
  | jwk made => exact decodes_of_ofJwk made
  | drawn drawn =>
      obtain ⟨-, -, jwk, made⟩ := ephemeral_sound drawn
      exact decodes_of_ofJwk made
  | half whole ih => exact ih.toPublic

theorem Decodes.checkCoordinates (decodes : k.Decodes) : k.checkCoordinates = .ok () :=
  checkCoordinates_eq_ok_iff.mpr ⟨decodes.x, decodes.y, decodes.d.mpr⟩

/-! Keys that are private. -/

theorem isPrivate_of_ofSecret (made : ofSecret s = .ok k) : k.isPrivate = true := by
  unfold ofSecret at made
  split at made
  · obtain ⟨key, -, made⟩ := bind_eq_ok_iff.mp made
    split at made
    · next whole =>
        obtain rfl := pure_eq_ok_iff.mp made
        exact whole
    · simp at made
  · contradiction
  · contradiction

theorem isPrivate_of_ofJwk (made : ofJwk kid jwk = .ok k) (given : jwk.d.isSome = true) :
    k.isPrivate = true := by
  obtain ⟨curve, -, -, -, rfl⟩ := ofJwk_eq_ok_iff.mp made
  exact given

theorem isPrivate_of_ephemeralOn {c : Weierstrass} {on : Curve}
    (drawn : ephemeralOn c on e = .ok (k, e')) : k.isPrivate = true := by
  unfold ephemeralOn at drawn
  obtain ⟨n, between, -, drawn⟩ := Drawn.bind_eq_ok_iff.mp drawn
  obtain ⟨made, -⟩ := Drawn.lift_eq_ok_iff.mp drawn
  exact isPrivate_of_ofJwk made rfl

theorem isPrivate_of_ephemeral {on : Curve} (drawn : ephemeral on e = .ok (k, e')) :
    k.isPrivate = true := by
  unfold ephemeral at drawn
  cases on with
  | x25519 =>
      obtain ⟨d, between, -, drawn⟩ := Drawn.bind_eq_ok_iff.mp drawn
      obtain ⟨made, -⟩ := Drawn.lift_eq_ok_iff.mp drawn
      exact isPrivate_of_ofJwk made rfl
  | p256 => exact isPrivate_of_ephemeralOn drawn
  | secp256k1 => exact isPrivate_of_ephemeralOn drawn
  | ed25519 => simp [throw, throwThe, MonadExceptOf.throw, StateT.lift, bind, Except.bind] at drawn

end DidMessaging.Key

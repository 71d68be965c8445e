import DidMessaging.Did.Directory
import DidMessaging.Proofs.Result

namespace DidMessaging.Key

open Result

theorem coordinate_eq_ok_iff {id name encoded : String} :
    coordinate id name encoded = .ok bytes ↔
      decodeBase64Url encoded = .ok bytes ∧ bytes.length = 32 := by
  unfold coordinate
  rw [bind_eq_ok_iff]
  constructor
  · rintro ⟨found, decoded, sized⟩
    split at sized
    · next size =>
        obtain rfl := Except.ok.inj sized
        exact ⟨decoded, size⟩
    · contradiction
  · rintro ⟨decoded, sized⟩
    exact ⟨bytes, decoded, if_pos sized⟩

theorem ofJwk_eq_ok_iff {id : String} {jwk : Jwk} {k : Key} :
    ofJwk id jwk = .ok k ↔
      ∃ curve, Curve.named? jwk.crv = some curve ∧ jwk.kty = curve.keyType ∧
        checkCoordinates ⟨id, curve, jwk⟩ = .ok () ∧ k = ⟨id, curve, jwk⟩ := by
  unfold ofJwk
  cases named : Curve.named? jwk.crv with
  | none => simp
  | some curve =>
      simp only [ite_throw_eq_ok_iff, check_bind_eq_ok_iff, pure_eq_ok_iff, Option.some.injEq,
        exists_eq_left', not_not]
      simp [eq_comm]

theorem checkCoordinates_eq_ok_iff {k : Key} :
    k.checkCoordinates = .ok () ↔
      (∃ x, k.x = .ok x) ∧ (k.curve.planar = true → ∃ y, k.y = .ok y) ∧
        (k.isPrivate = true → ∃ d, k.d = .ok d) := by
  unfold checkCoordinates
  cases planar : k.curve.planar <;> cases isPrivate : k.isPrivate <;>
    simp only [Bool.false_eq_true, if_false, if_true, bind_eq_ok_iff, pure_eq_ok_iff] <;>
    simp

theorem id_of_ofJwk {kid : String} {jwk : Jwk} {k : Key} (made : ofJwk kid jwk = .ok k) :
    k.id = kid := by
  obtain ⟨curve, -, -, -, rfl⟩ := ofJwk_eq_ok_iff.mp made
  rfl

/-! Whatever a key is read from, it is made from a JSON Web Key in the end. -/

theorem ofJwk_of_ofJson {kid : String} {k : Key} (made : ofJson kid value = .ok k) :
    ∃ jwk, ofJwk kid jwk = .ok k := by
  unfold ofJson at made
  split at made
  · exact ⟨_, made⟩
  · contradiction

theorem ofJwk_of_ofMethod {k : Key} (made : ofMethod m = .ok k) :
    ∃ jwk, ofJwk m.id jwk = .ok k := by
  unfold ofMethod at made
  split at made
  · exact ofJwk_of_ofJson made
  · obtain ⟨raw, -, made⟩ := bind_eq_ok_iff.mp made
    exact ⟨_, made⟩
  · obtain ⟨raw, -, made⟩ := bind_eq_ok_iff.mp made
    exact ⟨_, made⟩
  · obtain ⟨raw, -, made⟩ := bind_eq_ok_iff.mp made
    exact ⟨_, made⟩
  · obtain ⟨raw, -, made⟩ := bind_eq_ok_iff.mp made
    exact ⟨_, made⟩
  · contradiction
  · contradiction

theorem id_of_ofMethod {k : Key} (made : ofMethod m = .ok k) : k.id = m.id := by
  obtain ⟨jwk, made⟩ := ofJwk_of_ofMethod made
  exact id_of_ofJwk made

theorem ofJwk_of_ofSecret {k : Key} (made : ofSecret s = .ok k) :
    ∃ jwk, ofJwk s.id jwk = .ok k := by
  unfold ofSecret at made
  split at made
  · obtain ⟨key, found, made⟩ := bind_eq_ok_iff.mp made
    split at made
    · obtain rfl := pure_eq_ok_iff.mp made
      exact ofJwk_of_ofJson found
    · simp at made
  · contradiction
  · contradiction

end DidMessaging.Key

namespace DidMessaging

open Result

theorem Keyring.ofJwk_of_key {k : Keyring} {kid : String} {key : Key}
    (found : k.key kid = .ok key) : ∃ jwk, Key.ofJwk kid jwk = .ok key := by
  unfold Keyring.key at found
  split at found
  · next s listed =>
      have same : s.id = kid := by simpa using List.find?_some listed
      exact same ▸ Key.ofJwk_of_ofSecret found
  · contradiction

theorem Keyring.id_of_key {k : Keyring} {kid : String} {key : Key} (found : k.key kid = .ok key) :
    key.id = kid := by
  obtain ⟨jwk, made⟩ := ofJwk_of_key found
  exact Key.id_of_ofJwk made

/-- A public key with the curve and the coordinates of another key. -/
structure Key.SamePoint (k k' : Key) : Prop where
  curve : k'.curve = k.curve
  x : ∀ x, k.x = .ok x → k'.x = .ok x
  y : k.curve.planar = true → ∀ y, k.y = .ok y → k'.y = .ok y

theorem Key.SamePoint.point {k k' : Key} (same : k.SamePoint k') (planar : k.curve.planar = true)
    (point : k.point = .ok p) : k'.point = .ok p := by
  obtain ⟨x, xFound, point⟩ := bind_eq_ok_iff.mp point
  obtain ⟨y, yFound, point⟩ := bind_eq_ok_iff.mp point
  exact bind_eq_ok_iff.mpr ⟨x, same.x x xFound,
    bind_eq_ok_iff.mpr ⟨y, same.y planar y yFound, point⟩⟩

/-- The id of a key does not matter where no error names it. -/
theorem Key.samePoint_of_jwk {k k' : Key} (curve : k'.curve = k.curve) (x : k'.jwk.x = k.jwk.x)
    (y : k'.jwk.y = k.jwk.y) : k.SamePoint k' where
  curve
  x := fun bytes found => by
    rw [Key.x, coordinate_eq_ok_iff] at found ⊢
    rwa [x]
  y := fun _ bytes found => by
    unfold Key.y at found ⊢
    rw [y]
    cases given : k.jwk.y with
    | none => simp [given] at found
    | some encoded =>
        simp only [given, coordinate_eq_ok_iff] at found ⊢
        exact found

/-- The public half of a key is a key again, under any id. -/
theorem Key.ofJwk_toPublic {jwk : Jwk} {k : Key} (made : ofJwk kid jwk = .ok k) (other : String) :
    ofJwk other k.jwk.toPublic = .ok { k.toPublic with id := other } := by
  obtain ⟨curve, named, keyType, checked, rfl⟩ := ofJwk_eq_ok_iff.mp made
  have same : SamePoint ⟨kid, curve, jwk⟩ ⟨other, curve, jwk.toPublic⟩ :=
    samePoint_of_jwk rfl rfl rfl
  obtain ⟨⟨x, hasX⟩, hasY, -⟩ := checkCoordinates_eq_ok_iff.mp checked
  have publicChecked : checkCoordinates ⟨other, curve, jwk.toPublic⟩ = .ok () := by
    refine checkCoordinates_eq_ok_iff.mpr ⟨⟨x, same.x x hasX⟩, fun planar => ?_, by
      simp [isPrivate, Jwk.toPublic]⟩
    obtain ⟨y, hasY⟩ := hasY planar
    exact ⟨y, same.y planar y hasY⟩
  exact ofJwk_eq_ok_iff.mpr ⟨curve, named, keyType, publicChecked, rfl⟩

end DidMessaging

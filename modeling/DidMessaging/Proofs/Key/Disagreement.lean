import DidMessaging.Proofs.Key.Fitting

namespace DidMessaging

open Result

/-- The equation of a curve with two coordinates. -/
def Curve.weierstrass? : Curve → Option Weierstrass
  | .p256 => some .p256
  | .secp256k1 => some .secp256k1
  | .x25519 | .ed25519 => none

theorem Curve.exists_weierstrass {curve : Curve} (planar : curve.planar = true) :
    ∃ c, curve.weierstrass? = some c := by
  cases curve with
  | x25519 => contradiction
  | ed25519 => contradiction
  | p256 => exact ⟨.p256, rfl⟩
  | secp256k1 => exact ⟨.secp256k1, rfl⟩

namespace Key

/-- A private key for agreement. On a curve with two coordinates its octets are a scalar. -/
structure Usable (k : Key) : Prop where
  serves : k.curve ≠ .ed25519
  secret : ∃ d, k.d = .ok d ∧ ∀ c, k.curve.weierstrass? = some c → ∃ n, c.scalar? d = some n

/-- The public key is no point to agree on: of low order, or not on the curve at all. -/
inductive NoPoint (k other : Key) : CryptoFault → Prop
  | lowOrder {d x : Bytes} (on : k.curve = .x25519) (same : k.curve = other.curve)
      (secret : k.d = .ok d) (published : other.x = .ok x)
      (zero : X25519.agree d x = Bytes.zeros 32) :
      NoPoint k other (.nonContributory other.id)
  | offCurve {c : Weierstrass} {x y : Bytes} (on : k.curve.weierstrass? = some c)
      (same : k.curve = other.curve) (abscissa : other.x = .ok x) (ordinate : other.y = .ok y)
      (off : c.point? (Bytes.toNat x) (Bytes.toNat y) = none) :
      NoPoint k other (.point other.curve other.id)

variable {k other : Key} {c : Weierstrass} {d x y : Bytes} {n : Nat}

theorem agree_of_x25519 (on : k.curve = .x25519) (same : k.curve = other.curve)
    (secret : k.d = .ok d) (published : other.x = .ok x) :
    k.agree other = if X25519.agree d x = Bytes.zeros 32 then
      .error (.crypto (.nonContributory other.id)) else .ok (X25519.agree d x) := by
  unfold agree
  rw [if_neg (not_not.mpr same), on]
  simp only [secret, published, bind, Except.bind]
  split <;> rfl

theorem length_of_coordinate {id name encoded : String}
    (found : coordinate id name encoded = .ok octets) : octets.length = 32 :=
  (coordinate_eq_ok_iff.mp found).2

theorem length_of_y (found : k.y = .ok y) : y.length = 32 := by
  unfold Key.y at found
  split at found
  · exact length_of_coordinate found
  · contradiction

theorem decode?_uncompressed (sizedX : x.length = 32) (sizedY : y.length = 32) :
    c.decode? (4 :: x ++ y) = c.point? (Bytes.toNat x) (Bytes.toNat y) := by
  rw [List.cons_append, Weierstrass.decode?, if_pos ⟨rfl, by simp [sizedX, sizedY]⟩,
    List.take_left' sizedX, List.drop_left' sizedX]

theorem agreeOn_of_coordinates (secret : k.d = .ok d) (scalar : c.scalar? d = some n)
    (abscissa : other.x = .ok x) (ordinate : other.y = .ok y) :
    agreeOn c k other = match c.point? (Bytes.toNat x) (Bytes.toNat y) with
      | some s => .ok (c.agree n s)
      | none => .error (.crypto (.point other.curve other.id)) := by
  have decoded : c.decode? (4 :: x ++ y) = c.point? (Bytes.toNat x) (Bytes.toNat y) :=
    decode?_uncompressed (length_of_coordinate abscissa) (length_of_y ordinate)
  have point : other.point = .ok (4 :: x ++ y) :=
    bind_eq_ok_iff.mpr ⟨x, abscissa, bind_eq_ok_iff.mpr ⟨y, ordinate, rfl⟩⟩
  unfold agreeOn
  simp only [secret, scalar, point, decoded, bind, Except.bind]
  cases c.point? (Bytes.toNat x) (Bytes.toNat y) <;> rfl

theorem agree_of_planar (on : k.curve.weierstrass? = some c) (same : k.curve = other.curve) :
    k.agree other = agreeOn c k other := by
  unfold agree
  rw [if_neg (not_not.mpr same)]
  cases curve : k.curve with
  | x25519 => simp [curve, Curve.weierstrass?] at on
  | ed25519 => simp [curve, Curve.weierstrass?] at on
  | p256 =>
      obtain rfl : .p256 = c := by simpa [curve, Curve.weierstrass?] using on
      rfl
  | secp256k1 =>
      obtain rfl : .secp256k1 = c := by simpa [curve, Curve.weierstrass?] using on
      rfl

/-- Keys that have their coordinates come to no agreement because they are on different curves, or
because the public one is no point. -/
theorem agree_eq_error_sound (usable : k.Usable) (checked : other.checkCoordinates = .ok ())
    (fails : k.agree other = .error e) :
    (∃ cause, e = .incompatible cause) ∨ ∃ fault, e = .crypto fault ∧ k.NoPoint other fault := by
  obtain ⟨d, secret, scalar⟩ := usable.secret
  obtain ⟨⟨x, abscissa⟩, planarOrdinate, -⟩ := checkCoordinates_eq_ok_iff.mp checked
  by_cases same : k.curve = other.curve
  · right
    cases on : k.curve.weierstrass? with
    | some c =>
        obtain ⟨n, isScalar⟩ := scalar c on
        have planar : other.curve.planar = true := by
          rw [← same]
          cases curve : k.curve <;> simp [curve, Curve.weierstrass?] at on <;> rfl
        obtain ⟨y, ordinate⟩ := planarOrdinate planar
        rw [agree_of_planar on same, agreeOn_of_coordinates secret isScalar abscissa ordinate]
          at fails
        cases point : c.point? (Bytes.toNat x) (Bytes.toNat y) with
        | some s => simp [point] at fails
        | none =>
            simp only [point] at fails
            obtain rfl := Except.error.inj fails
            exact ⟨_, rfl, .offCurve on same abscissa ordinate point⟩
    | none =>
        have linear : k.curve = .x25519 := by
          cases curve : k.curve with
          | x25519 => rfl
          | ed25519 => exact absurd curve usable.serves
          | p256 => simp [curve, Curve.weierstrass?] at on
          | secp256k1 => simp [curve, Curve.weierstrass?] at on
        rw [agree_of_x25519 linear same secret abscissa] at fails
        split at fails
        · next zero =>
            obtain rfl := Except.error.inj fails
            exact ⟨_, rfl, .lowOrder linear same secret abscissa zero⟩
        · contradiction
  · left
    unfold agree at fails
    rw [if_pos same] at fails
    obtain rfl := Except.error.inj fails
    exact ⟨_, rfl⟩

theorem agree_of_noPoint {fault : CryptoFault} (usable : k.Usable)
    (noPoint : k.NoPoint other fault) : k.agree other = .error (.crypto fault) := by
  cases noPoint with
  | lowOrder on same secret published zero =>
      rw [agree_of_x25519 on same secret published, if_pos zero]
  | @offCurve c x y on same abscissa ordinate off =>
      obtain ⟨d, secret, scalar⟩ := usable.secret
      obtain ⟨n, isScalar⟩ := scalar c on
      rw [agree_of_planar on same, agreeOn_of_coordinates secret isScalar abscissa ordinate, off]

theorem agree_of_different (apart : k.curve ≠ other.curve) :
    k.agree other = .error (.incompatible (.keys k.curve k.id other.curve other.id)) := by
  unfold agree
  rw [if_pos apart]
  rfl

theorem agree_of_ed25519 (on : k.curve = .ed25519) (same : k.curve = other.curve) :
    k.agree other = .error (.unsupported (.agreement .ed25519)) := by
  unfold agree
  rw [if_neg (not_not.mpr same), on]
  rfl

theorem agreeOn_of_noScalar (secret : k.d = .ok d) (noScalar : c.scalar? d = none) :
    agreeOn c k other = .error (.crypto .scalar) := by
  unfold agreeOn
  simp only [secret, noScalar, bind, Except.bind]
  rfl

/-- Why a private and a public key that have their coordinates share no secret. -/
inductive Disagrees (k other : Key) : Error → Prop
  | apart (curves : k.curve ≠ other.curve) :
      Disagrees k other (.incompatible (.keys k.curve k.id other.curve other.id))
  | edwards (on : k.curve = .ed25519) (same : k.curve = other.curve) :
      Disagrees k other (.unsupported (.agreement .ed25519))
  | noScalar {c : Weierstrass} {d : Bytes} (on : k.curve.weierstrass? = some c)
      (same : k.curve = other.curve) (secret : k.d = .ok d) (outside : c.scalar? d = none) :
      Disagrees k other (.crypto .scalar)
  | noPoint {fault : CryptoFault} (usable : k.Usable) (noPoint : k.NoPoint other fault) :
      Disagrees k other (.crypto fault)

/-- All the ways in which an agreement fails; none of them is that a coordinate cannot be read. -/
theorem agree_eq_error_iff (secret : k.d = .ok d) (checked : other.checkCoordinates = .ok ()) :
    k.agree other = .error e ↔ k.Disagrees other e := by
  constructor
  · intro fails
    by_cases same : k.curve = other.curve
    · by_cases on : k.curve = .ed25519
      · rw [agree_of_ed25519 on same] at fails
        obtain rfl := Except.error.inj fails
        exact .edwards on same
      · by_cases scalar : ∀ c, k.curve.weierstrass? = some c → ∃ n, c.scalar? d = some n
        · have usable : k.Usable := ⟨on, d, secret, scalar⟩
          rcases agree_eq_error_sound usable checked fails with ⟨cause, rfl⟩ | ⟨fault, rfl, noPoint⟩
          · exact absurd (fits_agree same _ fails) (by simp)
          · exact .noPoint usable noPoint
        · simp only [not_forall, not_exists] at scalar
          obtain ⟨c, on, noScalar⟩ := scalar
          have outside : c.scalar? d = none := Option.eq_none_iff_forall_ne_some.mpr noScalar
          rw [agree_of_planar on same, agreeOn_of_noScalar secret outside] at fails
          obtain rfl := Except.error.inj fails
          exact .noScalar on same secret outside
    · rw [agree_of_different same] at fails
      obtain rfl := Except.error.inj fails
      exact .apart same
  · intro disagrees
    cases disagrees with
    | apart curves => exact agree_of_different curves
    | edwards on same => exact agree_of_ed25519 on same
    | noScalar on same secret outside =>
        rw [agree_of_planar on same, agreeOn_of_noScalar secret outside]
    | noPoint usable noPoint => exact agree_of_noPoint usable noPoint

end Key

end DidMessaging

import DidMessaging.Key.Agreement
import DidMessaging.Proofs.Key.Basic

namespace DidMessaging.Key

open Result

/-! What two keys have to do with each other for both sides of an envelope to come to one secret.
That the curves commute in this way is what their users take from them. -/

theorem agreeOn_of_samePoint {c : Weierstrass} {s k k' : Key} (same : k.SamePoint k')
    (planar : k.curve.planar = true) (agrees : agreeOn c s k = .ok z) : agreeOn c s k' = .ok z := by
  unfold agreeOn at agrees ⊢
  obtain ⟨d, found, agrees⟩ := bind_eq_ok_iff.mp agrees
  refine bind_eq_ok_iff.mpr ⟨d, found, ?_⟩
  cases scalar : c.scalar? d with
  | none => simp [scalar] at agrees
  | some n =>
      simp only [scalar] at agrees ⊢
      obtain ⟨p, point, agrees⟩ := bind_eq_ok_iff.mp agrees
      refine bind_eq_ok_iff.mpr ⟨p, same.point planar point, ?_⟩
      cases decoded : c.decode? p with
      | none => simp [decoded] at agrees
      | some t => simpa [decoded] using agrees

/-- A secret is shared with the coordinates of a key. -/
theorem agree_of_samePoint {s k k' : Key} (same : k.SamePoint k') (agrees : s.agree k = .ok z) :
    s.agree k' = .ok z := by
  unfold agree at agrees ⊢
  simp only [ite_throw_eq_ok_iff, not_not] at agrees ⊢
  obtain ⟨curves, agrees⟩ := agrees
  refine ⟨curves.trans same.curve.symm, ?_⟩
  cases curve : s.curve with
  | x25519 =>
      simp only [curve] at agrees ⊢
      obtain ⟨d, found, agrees⟩ := bind_eq_ok_iff.mp agrees
      obtain ⟨x, abscissa, agrees⟩ := bind_eq_ok_iff.mp agrees
      refine bind_eq_ok_iff.mpr ⟨d, found, bind_eq_ok_iff.mpr ⟨x, same.x x abscissa, ?_⟩⟩
      simp only [ite_throw_eq_ok_iff] at agrees ⊢
      exact agrees
  | p256 =>
      simp only [curve] at agrees ⊢
      exact agreeOn_of_samePoint same (by rw [← curves, curve]; rfl) agrees
  | secp256k1 =>
      simp only [curve] at agrees ⊢
      exact agreeOn_of_samePoint same (by rw [← curves, curve]; rfl) agrees
  | ed25519 => simp [curve] at agrees

theorem curve_of_agree {k k' : Key} (agrees : k.agree k' = .ok z) : k.curve = k'.curve := by
  unfold agree at agrees
  exact not_not.mp (ite_throw_eq_ok_iff.mp agrees).1

/-- Both sides of an agreement come to one secret. -/
def Commutes (k k' : Key) : Prop := ∀ z, k.agree k' = .ok z → k'.agree k = .ok z

/-- Who holds the private half of a published key comes to the secret that is shared with it. -/
theorem agree_of_commutes {k k' published secret : Key} (matching : published.SamePoint secret)
    (commutes : k.Commutes secret) (same : k.SamePoint k')
    (agrees : k.agree published = .ok z) : secret.agree k' = .ok z :=
  agree_of_samePoint same (commutes z (agree_of_samePoint matching agrees))

/-! Fresh keys. -/

theorem octet_of_bytes {e e' : Entropy} (taken : Entropy.bytes n e = .ok (octets, e')) :
    e'.octet = e.octet := by
  obtain ⟨-, rfl⟩ := Prod.mk.inj (Except.ok.inj taken)
  rfl

theorem octet_of_drawScalar {c : Weierstrass} (drawn : drawScalar c tries e = .ok (n, e')) :
    e'.octet = e.octet := by
  induction tries generalizing e with
  | zero => simp [drawScalar, throw, throwThe, MonadExceptOf.throw, StateT.lift, bind,
      Except.bind] at drawn
  | succ tries ih =>
      rw [drawScalar, Drawn.bind_eq_ok_iff] at drawn
      obtain ⟨octets, between, taken, drawn⟩ := drawn
      cases scalar : c.scalar? octets with
      | none =>
          simp only [scalar] at drawn
          exact (ih drawn).trans (octet_of_bytes taken)
      | some found =>
          simp only [scalar] at drawn
          obtain ⟨-, rfl⟩ := Drawn.pure_eq_ok_iff.mp drawn
          exact octet_of_bytes taken

theorem curve_of_ofJwk {kid : String} {jwk : Jwk} {k : Key} {on : Curve}
    (made : ofJwk kid jwk = .ok k) (named : jwk.crv = on.name) : k.curve = on := by
  obtain ⟨curve, found, -, -, rfl⟩ := ofJwk_eq_ok_iff.mp made
  rw [named, Curve.named?_eq_some_iff.mpr rfl] at found
  exact (Option.some.inj found).symm

theorem ephemeralOn_sound {c : Weierstrass} {on : Curve}
    (drawn : ephemeralOn c on e = .ok (k, e')) :
    e'.octet = e.octet ∧ k.curve = on ∧ ∃ jwk, ofJwk "" jwk = .ok k := by
  unfold ephemeralOn at drawn
  obtain ⟨n, between, scalar, drawn⟩ := Drawn.bind_eq_ok_iff.mp drawn
  obtain ⟨made, rfl⟩ := Drawn.lift_eq_ok_iff.mp drawn
  exact ⟨octet_of_drawScalar scalar, curve_of_ofJwk made rfl, _, made⟩

/-- A fresh key is made from its coordinates. -/
theorem ephemeral_sound {on : Curve} (drawn : ephemeral on e = .ok (k, e')) :
    e'.octet = e.octet ∧ k.curve = on ∧ ∃ jwk, ofJwk "" jwk = .ok k := by
  unfold ephemeral at drawn
  cases on with
  | x25519 =>
      obtain ⟨d, between, taken, drawn⟩ := Drawn.bind_eq_ok_iff.mp drawn
      obtain ⟨made, rfl⟩ := Drawn.lift_eq_ok_iff.mp drawn
      exact ⟨octet_of_bytes taken, curve_of_ofJwk made rfl, _, made⟩
  | p256 => exact ephemeralOn_sound drawn
  | secp256k1 => exact ephemeralOn_sound drawn
  | ed25519 => simp [throw, throwThe, MonadExceptOf.throw, StateT.lift, bind, Except.bind] at drawn

end DidMessaging.Key

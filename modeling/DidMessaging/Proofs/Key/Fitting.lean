import DidMessaging.Proofs.Key.Agreement

namespace DidMessaging

/-- The arguments, or the keys among them, do not go together. -/
@[simp] def Error.isMisfit : Error → Bool
  | .illegal _ | .incompatible _ => true
  | _ => false

/-- An operation that does not fail for want of arguments that go together. -/
def Result.Fits (x : Result α) : Prop := ∀ e, x = .error e → e.isMisfit = false

namespace Result

@[simp] theorem fits_ok (a : α) : Fits (.ok a) := nofun

@[simp] theorem fits_pure (a : α) : Fits (pure a) := nofun

@[simp] theorem fits_error_iff {e : Error} : Fits (.error e : Result α) ↔ e.isMisfit = false := by
  simp [Fits]

@[simp] theorem fits_throw_iff {e : Error} : Fits (throw e : Result α) ↔ e.isMisfit = false :=
  fits_error_iff

theorem Fits.bind {x : Result α} {next : α → Result β} (first : Fits x)
    (rest : ∀ a, x = .ok a → Fits (next a)) : Fits (x >>= next) := by
  intro e fails
  rcases bind_eq_error_iff.mp fails with failed | ⟨a, found, failed⟩
  · exact first e failed
  · exact rest a found e failed

theorem Fits.check {c : Prop} [Decidable c] {e : Error} {after : α → Result β} {rest : Result β}
    (fits : e.isMisfit = false) (passed : ¬c → Fits rest) :
    Fits (if c then throw e >>= after else rest) := by
  split
  · exact (fits_throw_iff.mpr fits).bind nofun
  · next holds => exact passed holds

theorem Fits.mapM {f : α → Result β} {xs : List α} (each : ∀ x ∈ xs, Fits (f x)) :
    Fits (xs.mapM f) := by
  induction xs with
  | nil => exact fits_ok _
  | cons x xs ih =>
      obtain ⟨head, rest⟩ := List.forall_mem_cons.mp each
      rw [List.mapM_cons]
      exact head.bind fun _ _ => (ih rest).bind fun _ _ => fits_pure _

theorem Fits.draw {x : Draw α} {next : α → Draw β} {e : Entropy} (first : Fits (x e))
    (rest : ∀ a e', x e = .ok (a, e') → Fits (next a e')) : Fits ((x >>= next) e) :=
  Fits.bind first fun (a, e') drawn => rest a e' drawn

theorem Fits.lift {x : Result α} {e : Entropy} (fits : Fits x) : Fits ((liftM x : Draw α) e) :=
  Fits.bind fits fun _ _ => fits_ok _

end Result

open Result

theorem fits_decodeBase64Url (encoded : String) : Fits (decodeBase64Url encoded) := by
  unfold decodeBase64Url
  split <;> simp

namespace Key

variable {k other : Key}

theorem fits_coordinate (id name encoded : String) : Fits (coordinate id name encoded) := by
  refine (fits_decodeBase64Url encoded).bind fun bytes _ => ?_
  split <;> simp

theorem fits_x (k : Key) : Fits k.x := fits_coordinate _ _ _

theorem fits_y (k : Key) : Fits k.y := by
  unfold Key.y
  split
  · exact fits_coordinate _ _ _
  · exact fits_error_iff.mpr rfl

theorem fits_d (k : Key) : Fits k.d := by
  unfold Key.d
  split
  · exact fits_coordinate _ _ _
  · exact fits_error_iff.mpr rfl

theorem fits_point (k : Key) : Fits k.point :=
  k.fits_x.bind fun _ _ => k.fits_y.bind fun _ _ => fits_pure _

theorem fits_checkCoordinates (k : Key) : Fits k.checkCoordinates := by
  have rest : Fits (if k.isPrivate = true then k.d >>= fun _ => pure () else pure ()) := by
    split
    · exact k.fits_d.bind fun _ _ => fits_pure _
    · exact fits_pure _
  unfold checkCoordinates
  refine k.fits_x.bind fun _ _ => ?_
  dsimp only
  split
  · exact k.fits_y.bind fun _ _ => rest
  · exact rest

theorem fits_ofJwk (id : String) (jwk : Jwk) : Fits (ofJwk id jwk) := by
  unfold ofJwk
  split
  · exact Fits.check rfl fun _ => (fits_checkCoordinates _).bind fun _ _ => fits_pure _
  · exact fits_throw_iff.mpr rfl

/-! What is published and what is held. -/

theorem fits_ofJson (id : String) (value : Json) : Fits (ofJson id value) := by
  unfold ofJson
  split
  · exact fits_ofJwk _ _
  · exact fits_error_iff.mpr rfl

theorem fits_decodeBase58 (text : String) : Fits (decodeBase58 text) := by
  unfold decodeBase58
  split <;> simp

theorem fits_decodeMulticodec (code : UInt8) (text : String) : Fits (decodeMulticodec code text) := by
  unfold decodeMulticodec
  split
  · exact fits_error_iff.mpr rfl
  · split <;> simp
  · exact fits_error_iff.mpr rfl

theorem fits_ofMethod (m : VerificationMethod) : Fits (ofMethod m) := by
  unfold ofMethod
  split
  · exact fits_ofJson _ _
  · exact (fits_decodeBase58 _).bind fun _ _ => fits_ofJwk _ _
  · exact (fits_decodeBase58 _).bind fun _ _ => fits_ofJwk _ _
  · exact (fits_decodeMulticodec _ _).bind fun _ _ => fits_ofJwk _ _
  · exact (fits_decodeMulticodec _ _).bind fun _ _ => fits_ofJwk _ _
  · exact fits_error_iff.mpr rfl
  · exact fits_error_iff.mpr rfl

theorem fits_ofSecret (s : Secret) : Fits (ofSecret s) := by
  unfold ofSecret
  split
  · refine (fits_ofJson _ _).bind fun _ _ => ?_
    split
    · exact fits_pure _
    · exact fits_throw_iff.mpr rfl
  · exact fits_error_iff.mpr rfl
  · exact fits_error_iff.mpr rfl

/-! Agreement. -/

theorem fits_agreeOn (c : Weierstrass) (k other : Key) : Fits (agreeOn c k other) := by
  unfold agreeOn
  refine k.fits_d.bind fun d _ => ?_
  split
  · refine other.fits_point.bind fun point _ => ?_
    split
    · exact fits_pure _
    · exact fits_throw_iff.mpr rfl
  · exact fits_throw_iff.mpr rfl

/-- Keys on one curve go together, whatever else may be wrong with them. -/
theorem fits_agree (same : k.curve = other.curve) : Fits (k.agree other) := by
  unfold agree
  dsimp only
  rw [if_neg (not_not.mpr same)]
  split
  · exact k.fits_d.bind fun d _ => other.fits_x.bind fun x _ =>
      Fits.check rfl fun _ => fits_pure _
  · exact fits_agreeOn _ _ _
  · exact fits_agreeOn _ _ _
  · exact fits_throw_iff.mpr rfl

/-! Fresh keys. -/

theorem fits_drawScalar (c : Weierstrass) (tries : Nat) (e : Entropy) :
    Fits (drawScalar c tries e) := by
  -- Along the tries, each of which begins where the one before stopped reading the stream.
  induction tries generalizing e with
  | zero => exact fits_error_iff.mpr rfl
  | succ tries ih =>
      rw [drawScalar]
      refine Fits.draw (fits_ok _) fun octets e' _ => ?_
      cases scalar : c.scalar? octets with
      | none => simpa only [scalar] using ih e'
      | some n => exact fits_ok _

theorem fits_ephemeralOn (c : Weierstrass) (curve : Curve) (e : Entropy) :
    Fits (ephemeralOn c curve e) :=
  Fits.draw (fits_drawScalar c _ e) fun _ _ _ => (fits_ofJwk _ _).lift

theorem fits_ephemeral (curve : Curve) (e : Entropy) : Fits (ephemeral curve e) := by
  cases curve with
  | x25519 => exact Fits.draw (fits_ok _) fun _ _ _ => (fits_ofJwk _ _).lift
  | p256 => exact fits_ephemeralOn _ _ e
  | secp256k1 => exact fits_ephemeralOn _ _ e
  | ed25519 => exact fits_error_iff.mpr rfl

end Key

end DidMessaging

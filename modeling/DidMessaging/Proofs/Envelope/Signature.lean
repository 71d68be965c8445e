import DidMessaging.Envelope.Jws
import DidMessaging.Proofs.Result

namespace DidMessaging

open Result

/-- The algorithm that goes with the curve of a key accepts a signature under the key. -/
def Key.Verifies (k : Key) (a : SignatureAlgorithm) (input : String) (signature : Bytes) : Prop :=
  SignatureAlgorithm.ofCurve k.curve = .ok a ∧
    ∃ bytes, k.verifyingBytes = .ok bytes ∧ a.verify bytes (Utf8.encode input) signature = .ok true

theorem Key.verifyInput_eq_ok_iff {k : Key} :
    k.verifyInput a input signature = .ok () ↔ k.Verifies a input signature := by
  unfold verifyInput Verifies
  simp only [bind_eq_ok_iff, ite_throw_eq_ok_iff]
  constructor
  · rintro ⟨a', ofCurve, same, bytes, verifying, holds, verified, accepted⟩
    obtain rfl : a' = a := not_not.mp same
    cases holds with
    | false => simp at accepted
    | true => exact ⟨ofCurve, bytes, verifying, verified⟩
  · rintro ⟨ofCurve, bytes, verifying, verified⟩
    exact ⟨a, ofCurve, not_not.mpr rfl, bytes, verifying, true, verified, rfl⟩

namespace Jws

/-- A signature of an envelope holds under a key. -/
def Holds (j : Jws) (s : Signature) (k : Key) : Prop :=
  ∃ a signature, s.algorithm = .ok a ∧ decodeBase64Url s.signature = .ok signature ∧
    k.Verifies a (signingInput s.header j.payload) signature

theorem verify_eq_ok_iff {j : Jws} {s : Signature} {k : Key} :
    j.verify s a k = .ok () ↔ ∃ signature, decodeBase64Url s.signature = .ok signature ∧
      k.Verifies a (signingInput s.header j.payload) signature := by
  simp only [verify, bind_eq_ok_iff, Key.verifyInput_eq_ok_iff]

theorem parse_eq_ok_iff {received : String} :
    parse received = .ok j ↔
      (Json.Tree.read? received).bind read? = some j ∧ j.signatures ≠ [] := by
  constructor
  · intro parsed
    unfold parse at parsed
    split at parsed
    · contradiction
    · next found read =>
        split at parsed
        · contradiction
        · next listed =>
            obtain rfl := Except.ok.inj parsed
            exact ⟨read, by simpa using listed⟩
  · rintro ⟨read, listed⟩
    simp [parse, read, listed]

end Jws

namespace CompactJws

/-- The signature of a compact text holds under a key. -/
def Holds (j : CompactJws) (k : Key) : Prop :=
  ∃ a, SignatureAlgorithm.ofName j.header.alg = .ok a ∧ k.Verifies a j.signed j.signature

theorem verify_eq_ok_iff {j : CompactJws} {k : Key} : j.verify k = .ok () ↔ j.Holds k := by
  simp only [verify, bind_eq_ok_iff, Key.verifyInput_eq_ok_iff, Holds]

end CompactJws

end DidMessaging

import DidMessaging.Proofs.Bytes
import DidMessaging.Proofs.Cipher.Canonical

namespace DidMessaging.CbcHmac

variable {associated associated' iv iv' ciphertext ciphertext' key received message : Bytes}

/-- Two texts that have one tag under a key. -/
structure Collision (key text text' : Bytes) : Prop where
  different : text ≠ text'
  tags : (Hmac.sha512 key text).take 32 = (Hmac.sha512 key text').take 32

theorem parts_eq_of_macInput_eq (short : associated.length < 2 ^ 61)
    (short' : associated'.length < 2 ^ 61) (vectors : iv.length = iv'.length)
    (same : macInput associated iv ciphertext = macInput associated' iv' ciphertext') :
    associated = associated' ∧ iv = iv' ∧ ciphertext = ciphertext' := by
  -- In bits the lengths are below `2 ^ 64`, so that nothing is lost in eight octets.
  obtain ⟨joined, bits⟩ := Bytes.append_ofNat_inj (by omega) (by omega) same
  have length : associated.length = associated'.length :=
    Nat.eq_of_mul_eq_mul_left (by decide) bits
  rw [List.append_assoc, List.append_assoc] at joined
  obtain ⟨associated, rest⟩ := List.append_inj joined length
  obtain ⟨vector, ciphertext⟩ := List.append_inj rest vectors
  exact ⟨associated, vector, ciphertext⟩

/-- The tag of what is accepted is the one of its parts. -/
theorem tag_of_decrypt (vector : iv.length = 16) (size : received.length = 32)
    (decrypted : decrypt iv key (ciphertext ++ received) associated = .ok message) :
    received = tag (key.take 32) associated iv ciphertext := by
  have encrypted := encrypt_of_decrypt vector decrypted
  obtain ⟨inner, tags⟩ := List.append_inj' encrypted ((length_tag ..).trans size.symm)
  rw [← tags, inner]

/-- The text that is authenticated determines its parts, so that octets that move from one part to
another change it; the same tag then fits only if two texts have one. -/
theorem macInput_eq_iff (short : associated.length < 2 ^ 61) (short' : associated'.length < 2 ^ 61)
    (vector : iv.length = 16) (vector' : iv'.length = 16) :
    (macInput associated iv ciphertext = macInput associated' iv' ciphertext' ↔
      associated = associated' ∧ iv = iv' ∧ ciphertext = ciphertext') ∧
    ∀ key received message message', received.length = 32 →
      decrypt iv key (ciphertext ++ received) associated = .ok message →
        decrypt iv' key (ciphertext' ++ received) associated' = .ok message' →
          (associated = associated' ∧ iv = iv' ∧ ciphertext = ciphertext') ∨
            Collision (key.take 32) (macInput associated iv ciphertext)
              (macInput associated' iv' ciphertext') := by
  have separated : macInput associated iv ciphertext = macInput associated' iv' ciphertext' ↔
      associated = associated' ∧ iv = iv' ∧ ciphertext = ciphertext' := by
    constructor
    · exact parts_eq_of_macInput_eq short short' (vector.trans vector'.symm)
    · rintro ⟨rfl, rfl, rfl⟩
      rfl
  refine ⟨separated, ?_⟩
  intro key received message message' size decrypted decrypted'
  by_cases same : macInput associated iv ciphertext = macInput associated' iv' ciphertext'
  · exact .inl (separated.mp same)
  · have tags := tag_of_decrypt vector size decrypted
    have tags' := tag_of_decrypt vector' size decrypted'
    exact .inr ⟨same, tags.symm.trans tags'⟩

/-- One octet moves from the associated data to the vector and one from there to the ciphertext. -/
theorem macInput_moved_ne :
    let associated : Bytes := [1, 2]
    let iv : Bytes := List.replicate 16 3
    let iv' : Bytes := 2 :: List.replicate 15 3
    associated ++ iv ++ [4] = [1] ++ iv' ++ [3, 4] ∧
      macInput associated iv [4] ≠ macInput [1] iv' [3, 4] ∧
      ∀ key received message message', received.length = 32 →
        decrypt iv key ([4] ++ received) associated = .ok message →
          decrypt iv' key ([3, 4] ++ received) [1] = .ok message' →
            Collision (key.take 32) (macInput associated iv [4]) (macInput [1] iv' [3, 4]) := by
  intro associated iv iv'
  have moved : associated ≠ [1] := by decide
  obtain ⟨separated, accepted⟩ :=
    @macInput_eq_iff associated [1] iv iv' [4] [3, 4] (by decide) (by decide) rfl rfl
  refine ⟨rfl, fun same => moved (separated.mp same).1, ?_⟩
  intro key received message message' size decrypted decrypted'
  have parts := accepted key received message message' size decrypted decrypted'
  exact parts.resolve_left fun same => moved same.1

end DidMessaging.CbcHmac

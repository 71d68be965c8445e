import DidMessaging.Cipher.Content
import DidMessaging.Proofs.Pieces
import DidMessaging.Proofs.Result
import Mathlib.Data.Option.Basic

namespace DidMessaging

open Result

namespace CbcHmac

theorem length_of_unpad? {padded message : Bytes} (unpadded : unpad? padded = some message) :
    message.length ≤ padded.length := by
  simp only [unpad?, Option.bind_eq_bind, Option.bind_eq_some_iff, Option.guard_eq_some',
    Option.pure_def, Option.some.injEq, List.splitAt_eq] at unpadded
  obtain ⟨last, -, -, -, -, -, rfl⟩ := unpadded
  exact List.length_take_le' _ _

theorem length_unchain_le (keys : List Aes.Block) (previous : Bytes) (blocks : List Bytes) :
    (unchain keys previous blocks).flatten.length ≤ 16 * blocks.length := by
  induction blocks generalizing previous with
  | nil => exact Nat.le_refl _
  | cons c blocks ih =>
      have rest := ih c
      rw [unchain, List.flatten_cons, List.length_append, Bytes.length_xor, Aes.length_decrypt,
        List.length_cons]
      omega

theorem length_of_cbcDecrypt? {key iv ciphertext message : Bytes}
    (decrypted : cbcDecrypt? key iv ciphertext = some message) :
    message.length ≤ ciphertext.length := by
  unfold cbcDecrypt? at decrypted
  split at decrypted
  · next whole =>
      have unpadded := length_of_unpad? decrypted
      have unchained := length_unchain_le (Aes.roundKeys key) iv (chunks 16 ciphertext)
      rw [chunks, length_pieces] at unchained
      rw [chunks] at unpadded
      omega
  · contradiction

theorem length_of_decrypt {iv key sealed associated message : Bytes}
    (decrypted : decrypt iv key sealed associated = .ok message) :
    message.length + 32 ≤ sealed.length := by
  unfold decrypt at decrypted
  split at decrypted
  · contradiction
  · next enough =>
      simp only [List.splitAt_eq] at decrypted
      split at decrypted
      · contradiction
      · split at decrypted
        · next inner =>
            obtain rfl := Except.ok.inj decrypted
            have shorter := length_of_cbcDecrypt? inner
            rw [List.length_take] at shorter
            omega
        · contradiction

end CbcHmac

theorem StreamCipher.length_of_decrypt {c : StreamCipher} {content message : Bytes}
    (decrypted : c.decrypt content = .ok message) : message.length + 16 ≤ content.length := by
  unfold decrypt at decrypted
  split at decrypted
  · contradiction
  · next enough =>
      simp only [List.splitAt_eq] at decrypted
      split at decrypted
      · obtain rfl := Except.ok.inj decrypted
        rw [Bytes.length_xor, List.length_take]
        omega
      · contradiction

theorem ContentAlgorithm.length_of_decrypt {a : ContentAlgorithm}
    {iv key sealed associated message : Bytes}
    (decrypted : a.decrypt iv key sealed associated = .ok message) :
    message.length + a.tagSize ≤ sealed.length := by
  obtain ⟨-, decrypted⟩ := check_bind_eq_ok_iff.mp decrypted
  cases a with
  | a256cbcHs512 => exact CbcHmac.length_of_decrypt decrypted
  | xc20p => exact StreamCipher.length_of_decrypt decrypted
  | a256gcm => exact StreamCipher.length_of_decrypt decrypted

end DidMessaging

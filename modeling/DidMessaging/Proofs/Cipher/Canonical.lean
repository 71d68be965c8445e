import DidMessaging.Proofs.Cipher.Content
import DidMessaging.Proofs.Cipher.Size

namespace DidMessaging

open Result

theorem append_of_splitAt {content front back : Bytes} (cut : content.splitAt n = (front, back)) :
    front ++ back = content := by
  rw [List.splitAt_eq] at cut
  obtain ⟨rfl, rfl⟩ := Prod.mk.inj cut
  exact List.take_append_drop n content

namespace CbcHmac

variable {padded message previous key iv ciphertext sealed associated : Bytes}

/-- The last octet says how many there are of it. -/
theorem filled_of_unpad? (unpadded : unpad? padded = some message) :
    ∃ n, 1 ≤ n ∧ n ≤ 16 ∧ padded = message ++ List.replicate n (UInt8.ofNat n) := by
  simp only [unpad?, Option.bind_eq_bind, Option.bind_eq_some_iff, Option.guard_eq_some',
    Option.pure_def, Option.some.injEq, List.splitAt_eq] at unpadded
  obtain ⟨last, -, -, ⟨least, most, enough⟩, -, equal, rfl⟩ := unpadded
  have filling : padded.drop (padded.length - last.toNat) =
      List.replicate last.toNat (UInt8.ofNat last.toNat) := by
    rw [UInt8.ofNat_toNat, List.eq_replicate_iff, List.length_drop]
    refine ⟨by omega, fun b member => ?_⟩
    simpa using List.all_eq_true.mp equal b member
  exact ⟨last.toNat, least, most, by rw [← filling, List.take_append_drop]⟩

/-- Of whole blocks only one message is unpadded, and it is padded to them again. -/
theorem pad_of_unpad? (whole : padded.length % 16 = 0) (unpadded : unpad? padded = some message) :
    pad message = padded := by
  obtain ⟨n, least, most, rfl⟩ := filled_of_unpad? unpadded
  rw [List.length_append, List.length_replicate] at whole
  -- Of the counts from 1 to 16 only one completes the last block.
  have missing : 16 - message.length % 16 = n := by omega
  rw [pad, missing]

theorem length_unchain (keys : List Aes.Block) {blocks : List Bytes}
    (vector : previous.length = 16) (sized : ∀ b ∈ blocks, b.length = 16) :
    ∀ b ∈ unchain keys previous blocks, b.length = 16 := by
  induction blocks generalizing previous with
  | nil => simp [unchain]
  | cons c blocks ih =>
      obtain ⟨first, others⟩ := List.forall_mem_cons.mp sized
      exact List.forall_mem_cons.mpr ⟨by simp [vector], ih first others⟩

theorem chain_unchain (keys : List Aes.Block) {blocks : List Bytes}
    (vector : previous.length = 16) (sized : ∀ b ∈ blocks, b.length = 16) :
    chain keys previous (unchain keys previous blocks) = blocks := by
  induction blocks generalizing previous with
  | nil => rfl
  | cons c blocks ih =>
      obtain ⟨first, others⟩ := List.forall_mem_cons.mp sized
      -- The vector of what follows is the encrypted block, on which both directions agree.
      rw [unchain, chain, Bytes.xor_xor_cancel (by simp [vector]),
        Aes.encrypt_decrypt_block keys first, ih first others]

theorem cbcEncrypt_of_cbcDecrypt? (vector : iv.length = 16)
    (decrypted : cbcDecrypt? key iv ciphertext = some message) :
    cbcEncrypt key iv message = ciphertext := by
  unfold cbcDecrypt? at decrypted
  split at decrypted
  · next whole =>
      have sized (b) (member : b ∈ chunks 16 ciphertext) : b.length = 16 :=
        length_of_mem_chunks (by decide) whole member
      have plain := length_unchain (Aes.roundKeys key) vector sized
      have padded := pad_of_unpad?
        (by rw [length_flatten_of_sized plain, Nat.mul_mod_right]) decrypted
      rw [cbcEncrypt, padded, chunks_flatten (by decide) plain,
        chain_unchain (Aes.roundKeys key) vector sized, flatten_chunks (by decide)]
  · contradiction

theorem encrypt_of_decrypt (vector : iv.length = 16)
    (decrypted : decrypt iv key sealed associated = .ok message) :
    encrypt iv key message associated = sealed := by
  unfold decrypt at decrypted
  split at decrypted
  · contradiction
  cases cut : sealed.splitAt (sealed.length - 32) with
  | mk ciphertext received =>
      rw [cut] at decrypted
      dsimp only at decrypted
      split at decrypted
      · contradiction
      next genuine =>
        split at decrypted
        · next inner =>
            obtain rfl := Except.ok.inj decrypted
            rw [encrypt, cbcEncrypt_of_cbcDecrypt? vector inner, ← not_not.mp genuine]
            exact append_of_splitAt cut
        · contradiction

end CbcHmac

theorem StreamCipher.encrypt_of_decrypt {c : StreamCipher} (sized : c.Sized)
    {content message : Bytes} (decrypted : c.decrypt content = .ok message) :
    c.encrypt message = content := by
  unfold decrypt at decrypted
  split at decrypted
  · contradiction
  cases cut : content.splitAt (content.length - 16) with
  | mk ciphertext received =>
      rw [cut] at decrypted
      dsimp only at decrypted
      split at decrypted
      · next genuine =>
          obtain rfl := Except.ok.inj decrypted
          rw [encrypt, xor_xor_stream sized, ← genuine]
          exact append_of_splitAt cut
      · contradiction

namespace ContentAlgorithm

variable {a : ContentAlgorithm} {iv key message associated sealed : Bytes}

/-- Encrypting the message gives the content that was decrypted to it. -/
theorem encrypt_of_decrypt (decrypted : a.decrypt iv key sealed associated = .ok message) :
    a.encrypt iv key message associated = .ok sealed := by
  obtain ⟨sizes, decrypted⟩ := check_bind_eq_ok_iff.mp decrypted
  refine check_bind_eq_ok_iff.mpr ⟨sizes, pure_eq_ok_iff.mpr ?_⟩
  obtain ⟨vector, keySize⟩ := checkSizes_eq_ok_iff.mp sizes
  cases a with
  | a256cbcHs512 => exact CbcHmac.encrypt_of_decrypt vector decrypted
  | xc20p =>
      exact StreamCipher.encrypt_of_decrypt (XChaChaPoly.sized_cipher vector keySize associated)
        decrypted
  | a256gcm => exact StreamCipher.encrypt_of_decrypt (Gcm.sized_cipher iv key associated) decrypted

theorem checkSizes_eq_error (wrong : iv.length ≠ a.ivSize ∨ key.length ≠ a.keySize) :
    a.checkSizes iv key = .error (if iv.length ≠ a.ivSize then .malformed (.ivSize a iv.length)
      else .crypto (.contentKeySize a key.length)) := by
  unfold checkSizes
  split
  · rfl
  · next vector => rw [if_pos (wrong.resolve_left vector)]

/-- Encryption takes the messages, one by one, to all contents that are accepted, and decryption is
its inverse from either side. A content has room for its tag beside the message. A vector or a key
of another size serves for neither. -/
theorem encrypts_onto_decrypted (a : ContentAlgorithm) (iv key associated : Bytes) :
    (iv.length = a.ivSize ∧ key.length = a.keySize →
      (∀ message, ∃ sealed, a.encrypt iv key message associated = .ok sealed ∧
        message.length + a.tagSize ≤ sealed.length ∧
        a.decrypt iv key sealed associated = .ok message) ∧
      ∀ sealed message, a.decrypt iv key sealed associated = .ok message →
        a.encrypt iv key message associated = .ok sealed) ∧
    (iv.length ≠ a.ivSize ∨ key.length ≠ a.keySize → ∃ e,
      (e = if iv.length ≠ a.ivSize then .malformed (.ivSize a iv.length)
        else .crypto (.contentKeySize a key.length)) ∧
      (∀ message, a.encrypt iv key message associated = .error e) ∧
      ∀ sealed, a.decrypt iv key sealed associated = .error e) := by
  constructor
  · rintro ⟨vector, keySize⟩
    refine ⟨fun message => ?_, fun sealed message => encrypt_of_decrypt⟩
    obtain ⟨sealed, encrypts⟩ := exists_encrypt vector keySize message associated
    have decrypts := decrypt_encrypt encrypts
    exact ⟨sealed, encrypts, length_of_decrypt decrypts, decrypts⟩
  · intro wrong
    have fails := checkSizes_eq_error wrong
    refine ⟨_, rfl, fun message => ?_, fun sealed => ?_⟩
    · exact bind_eq_error_iff.mpr (.inl fails)
    · exact bind_eq_error_iff.mpr (.inl fails)

/-- What a block of zeros is encrypted to under a key and a vector of zeros. -/
def gcmVector : Bytes :=
  Bytes.ofNat 32 0xCEA7403D4D606B6E074EC5D3BAF39D18D0D1C8A799996BF0265B98B5D48AB919

theorem encrypts_onto_decrypted_gcmVector :
    a256gcm.encrypt (Bytes.zeros 12) (Bytes.zeros 32) (Bytes.zeros 16) [] = .ok gcmVector ∧
      a256gcm.decrypt (Bytes.zeros 12) (Bytes.zeros 32) gcmVector [] = .ok (Bytes.zeros 16) := by
  have vector : a256gcm.encrypt (Bytes.zeros 12) (Bytes.zeros 32) (Bytes.zeros 16) [] =
      .ok gcmVector := by decide +kernel
  obtain ⟨sealed, encrypts, -, decrypts⟩ :=
    ((encrypts_onto_decrypted a256gcm (Bytes.zeros 12) (Bytes.zeros 32) []).1 ⟨rfl, rfl⟩).1
      (Bytes.zeros 16)
  obtain rfl : gcmVector = sealed := Except.ok.inj (vector.symm.trans encrypts)
  exact ⟨encrypts, decrypts⟩

end ContentAlgorithm

end DidMessaging

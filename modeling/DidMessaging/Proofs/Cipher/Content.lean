import DidMessaging.Cipher.Content
import DidMessaging.Proofs.Cipher.Aes
import DidMessaging.Proofs.Pieces
import DidMessaging.Proofs.Result

namespace DidMessaging

theorem Sha2.length_digest {W : Type} [Word W] (f : Sha2 W) (message : Bytes) :
    (f.digest message).length = 8 * Word.size W := by
  simp only [digest, State.toList, List.flatMap_cons, List.flatMap_nil, List.length_append,
    Bytes.length_ofNat, List.length_nil]
  omega

theorem Hmac.length_sha512 (key message : Bytes) : (Hmac.sha512 key message).length = 64 :=
  Sha2.length_digest sha512Family _

/-- Content in front of its tag is cut off from it. -/
theorem splitAt_tag (content : Bytes) {tag : Bytes} (sized : tag.length = size) :
    (content ++ tag).splitAt ((content ++ tag).length - size) = (content, tag) := by
  rw [List.length_append, sized, Nat.add_sub_cancel, List.splitAt_eq, List.take_left,
    List.drop_left]

namespace CbcHmac

theorem unpad?_filled (message : Bytes) {n : Nat} (least : 1 ≤ n) (most : n ≤ 16) :
    unpad? (message ++ List.replicate n (UInt8.ofNat n)) = some message := by
  have octet : (UInt8.ofNat n).toNat = n :=
    UInt8.toNat_ofNat_of_lt' (by simp only [UInt8.size]; omega)
  have last : (message ++ List.replicate n (UInt8.ofNat n)).getLast? = some (UInt8.ofNat n) := by
    rw [List.getLast?_append, List.getLast?_replicate, if_neg (by omega), Option.some_or]
  have cut := splitAt_tag message (List.length_replicate (n := n) (a := UInt8.ofNat n))
  have filled : 1 ≤ n ∧ n ≤ 16 ∧ n ≤ (message ++ List.replicate n (UInt8.ofNat n)).length :=
    ⟨least, most, by simp⟩
  have equal : (List.replicate n (UInt8.ofNat n)).all (· == UInt8.ofNat n) = true := by simp
  refine Option.bind_eq_some_iff.mpr ⟨_, last, ?_⟩
  rw [octet]
  refine Option.bind_eq_some_iff.mpr ⟨(), if_pos filled, ?_⟩
  rw [cut]
  exact Option.bind_eq_some_iff.mpr ⟨(), if_pos equal, rfl⟩

theorem unpad?_pad (message : Bytes) : unpad? (pad message) = some message := by
  have remainder := Nat.mod_lt message.length (by decide : 16 > 0)
  exact unpad?_filled message (by omega) (by omega)

theorem length_pad (message : Bytes) : (pad message).length % 16 = 0 := by
  rw [pad, List.length_append, List.length_replicate]
  omega

theorem unchain_chain (keys : List Aes.Block) {previous : Bytes} {blocks : List Bytes}
    (vector : previous.length = 16) (sized : ∀ b ∈ blocks, b.length = 16) :
    unchain keys previous (chain keys previous blocks) = blocks := by
  induction blocks generalizing previous with
  | nil => rfl
  | cons block blocks ih =>
      obtain ⟨first, others⟩ := List.forall_mem_cons.mp sized
      have mixed : (Bytes.xor block previous).length = 16 := by simp [first, vector]
      simp only [chain, unchain, Aes.decrypt_encrypt keys mixed, ih (Aes.length_encrypt _ _) others]
      rw [Bytes.xor_xor_cancel (by omega)]

theorem length_chain (keys : List Aes.Block) (previous : Bytes) (blocks : List Bytes) :
    ∀ c ∈ chain keys previous blocks, c.length = 16 := by
  induction blocks generalizing previous with
  | nil => simp [chain]
  | cons block blocks ih =>
      exact List.forall_mem_cons.mpr ⟨Aes.length_encrypt _ _, ih _⟩

theorem cbcDecrypt?_cbcEncrypt (key : Bytes) {iv : Bytes} (vector : iv.length = 16)
    (message : Bytes) : cbcDecrypt? key iv (cbcEncrypt key iv message) = some message := by
  have sized : ∀ b ∈ chunks 16 (pad message), b.length = 16 := fun b member =>
    length_of_mem_chunks (by decide) (length_pad message) member
  have blocks := length_chain (Aes.roundKeys key) iv (chunks 16 (pad message))
  rw [cbcDecrypt?, cbcEncrypt, if_pos (by rw [length_flatten_of_sized blocks]; omega),
    chunks_flatten (by decide) blocks, unchain_chain _ vector sized, flatten_chunks (by decide),
    unpad?_pad]

theorem length_tag (key associated iv ciphertext : Bytes) :
    (tag key associated iv ciphertext).length = 32 := by
  rw [tag, List.length_take, Hmac.length_sha512]
  rfl

theorem decrypt_encrypt {iv : Bytes} (vector : iv.length = 16) (key message associated : Bytes) :
    decrypt iv key (encrypt iv key message associated) associated = .ok message := by
  have sized := length_tag (key.take 32) associated iv (cbcEncrypt (key.drop 32) iv message)
  rw [decrypt, encrypt, if_neg (by rw [List.length_append, sized]; omega), splitAt_tag _ sized]
  simp [cbcDecrypt?_cbcEncrypt _ vector]

end CbcHmac

namespace StreamCipher

/-- The keystream covers every message, and the tag is as long as the content's end. -/
structure Sized (c : StreamCipher) : Prop where
  stream : ∀ size, size ≤ (c.stream size).length
  tag : ∀ ciphertext, (c.tag ciphertext).length = 16

variable {c : StreamCipher}

/-- The stream is taken off as it was put on. -/
theorem xor_xor_stream (sized : c.Sized) (message : Bytes) :
    Bytes.xor (Bytes.xor message (c.stream message.length))
      (c.stream (Bytes.xor message (c.stream message.length)).length) = message := by
  have covers := sized.stream message.length
  rw [Bytes.length_xor, Nat.min_eq_left covers, Bytes.xor_xor_cancel covers]

theorem decrypt_encrypt (sized : c.Sized) (message : Bytes) :
    c.decrypt (c.encrypt message) = .ok message := by
  simp only [encrypt]
  generalize content : Bytes.xor message _ = ciphertext
  have tagged := sized.tag ciphertext
  rw [decrypt, if_neg (by rw [List.length_append, tagged]; omega), splitAt_tag _ tagged]
  simp only [if_true, ← content, xor_xor_stream sized]

end StreamCipher

namespace Gcm

theorem length_keystream (keys : List Aes.Block) (iv : Bytes) (size : Nat) :
    size ≤ (keystream keys iv size).length := by
  have sized (i : Nat) : (counterBlock keys iv (i + 2)).length = 16 := Aes.length_encrypt keys _
  rw [keystream, length_flatMap_of_sized sized, List.length_range]
  omega

theorem length_tag (keys : List Aes.Block) (iv associated ciphertext : Bytes) :
    (tag keys iv associated ciphertext).length = 16 := by
  simp [tag, counterBlock]

theorem sized_cipher (iv key associated : Bytes) : (cipher iv key associated).Sized where
  stream := length_keystream _ iv
  tag := length_tag _ iv associated

end Gcm

namespace ChaCha

/-- Four rows of four words. -/
structure State.Square (s : State) : Prop where
  a : s.a.length = 4
  b : s.b.length = 4
  c : s.c.length = 4
  d : s.d.length = 4

theorem square_halfQuarter {s : State} (square : s.Square) (m n : Nat) :
    (halfQuarter m n s).Square := by
  constructor <;>
    simp [halfQuarter, Row.add, Row.xor, Row.rotateWords, square.a, square.b, square.c, square.d]

theorem square_quarter {s : State} (square : s.Square) : (quarter s).Square :=
  square_halfQuarter (square_halfQuarter square 16 12) 8 7

theorem length_shift (n : Nat) (x : Row) : (Row.shift n x).length = x.length := by
  rw [Row.shift, List.length_append, List.length_drop, List.length_take]
  omega

theorem square_doubleRound {s : State} (square : s.Square) : (doubleRound s).Square := by
  have columns := square_quarter square
  have diagonals := square_quarter (s := ⟨(quarter s).a, Row.shift 1 (quarter s).b,
      Row.shift 2 (quarter s).c, Row.shift 3 (quarter s).d⟩)
    ⟨columns.a, (length_shift 1 _).trans columns.b, (length_shift 2 _).trans columns.c,
      (length_shift 3 _).trans columns.d⟩
  exact ⟨diagonals.a, (length_shift 3 _).trans diagonals.b, (length_shift 2 _).trans diagonals.c,
    (length_shift 1 _).trans diagonals.d⟩

theorem square_doubleRounds (n : Nat) {s : State} (square : s.Square) :
    (doubleRounds n s).Square := by
  induction n generalizing s with
  | zero => exact square
  | succ n ih => exact ih (square_doubleRound square)

theorem length_words {bytes : Bytes} (sized : bytes.length = 16) : (words bytes).length = 4 := by
  rw [words, List.length_map, chunks, length_pieces, sized]

theorem length_octets (row : Row) : (octets row).length = 4 * row.length := by
  simp [octets, List.length_flatMap, Nat.mul_comm]

theorem square_start {key last : Bytes} (keySize : key.length = 32) (lastSize : last.length = 16) :
    (start key last).Square where
  a := length_words (by decide)
  b := length_words (by rw [List.length_take, keySize]; rfl)
  c := length_words (by rw [List.length_drop, keySize])
  d := length_words lastSize

theorem length_block {key nonce : Bytes} (keySize : key.length = 32) (nonceSize : nonce.length = 12)
    (counter : Nat) : (block key nonce counter).length = 64 := by
  have first : (start key (Bytes.ofNatLE 4 counter ++ nonce)).Square :=
    square_start keySize (by rw [List.length_append, Bytes.length_ofNatLE, nonceSize])
  have last := square_doubleRounds 10 first
  simp only [block, List.length_append, length_octets, Row.add, List.length_zipWith, first.a,
    first.b, first.c, first.d, last.a, last.b, last.c, last.d]
  rfl

theorem length_keystream {key nonce : Bytes} (keySize : key.length = 32)
    (nonceSize : nonce.length = 12) (size : Nat) : size ≤ (keystream key nonce size).length := by
  rw [keystream, length_flatMap_of_sized (fun i => length_block keySize nonceSize (i + 1)),
    List.length_range]
  omega

theorem length_deriveKey {key nonce : Bytes} (keySize : key.length = 32)
    (nonceSize : nonce.length = 16) : (deriveKey key nonce).length = 32 := by
  have last := square_doubleRounds 10 (square_start keySize nonceSize)
  simp only [deriveKey, List.length_append, length_octets, last.a, last.d]

end ChaCha

namespace XChaChaPoly

theorem length_tag (key nonce associated ciphertext : Bytes) :
    (tag key nonce associated ciphertext).length = 16 :=
  Bytes.length_ofNatLE 16 _

theorem length_subkey {iv key : Bytes} (vector : iv.length = 24) (keySize : key.length = 32) :
    (subkey key iv).length = 32 :=
  ChaCha.length_deriveKey keySize (by rw [List.length_take, vector]; rfl)

theorem length_nonce {iv : Bytes} (vector : iv.length = 24) : (nonce iv).length = 12 := by
  rw [nonce, List.length_append, Bytes.length_zeros, List.length_drop, vector]

theorem sized_cipher {iv key : Bytes} (vector : iv.length = 24) (keySize : key.length = 32)
    (associated : Bytes) : (cipher iv key associated).Sized where
  stream := ChaCha.length_keystream (length_subkey vector keySize) (length_nonce vector)
  tag := length_tag _ (nonce iv) associated

end XChaChaPoly

namespace ContentAlgorithm

open Result

theorem checkSizes_eq_ok_iff {a : ContentAlgorithm} {iv key : Bytes} :
    a.checkSizes iv key = .ok () ↔ iv.length = a.ivSize ∧ key.length = a.keySize := by
  unfold checkSizes
  split
  · next wrong => simp [wrong]
  · next vector =>
      split
      · next wrong => simp [wrong]
      · next keySize => simp [not_not.mp vector, not_not.mp keySize]

theorem exists_encrypt {a : ContentAlgorithm} {iv key : Bytes} (vector : iv.length = a.ivSize)
    (keySize : key.length = a.keySize) (message associated : Bytes) :
    ∃ sealed, a.encrypt iv key message associated = .ok sealed :=
  ⟨_, check_bind_eq_ok_iff.mpr ⟨checkSizes_eq_ok_iff.mpr ⟨vector, keySize⟩, rfl⟩⟩

/-- Decrypting gives the message that was encrypted. -/
theorem decrypt_encrypt {a : ContentAlgorithm} {iv key message associated sealed : Bytes}
    (encrypts : a.encrypt iv key message associated = .ok sealed) :
    a.decrypt iv key sealed associated = .ok message := by
  obtain ⟨sizes, encrypts⟩ := check_bind_eq_ok_iff.mp encrypts
  obtain rfl := pure_eq_ok_iff.mp encrypts
  refine check_bind_eq_ok_iff.mpr ⟨sizes, ?_⟩
  obtain ⟨vector, keySize⟩ := checkSizes_eq_ok_iff.mp sizes
  cases a with
  | a256cbcHs512 => exact CbcHmac.decrypt_encrypt vector key message associated
  | xc20p =>
      exact StreamCipher.decrypt_encrypt (XChaChaPoly.sized_cipher vector keySize associated) message
  | a256gcm => exact StreamCipher.decrypt_encrypt (Gcm.sized_cipher iv key associated) message

/-- The content key is wrapped in whole pieces of eight octets. -/
theorem whole_of_decrypt {a : ContentAlgorithm} {iv key sealed associated message : Bytes}
    (decrypted : a.decrypt iv key sealed associated = .ok message) : key.length % 8 = 0 := by
  obtain ⟨sizes, -⟩ := check_bind_eq_ok_iff.mp decrypted
  rw [(checkSizes_eq_ok_iff.mp sizes).2]
  cases a <;> rfl

/-- No algorithm ends its content with a tag whose length could not be written down. -/
theorem length_tag_lt (a : ContentAlgorithm) (sealed : Bytes) :
    (sealed.drop (sealed.length - a.tagSize)).length < UInt32.size := by
  have most : a.tagSize < UInt32.size := by cases a <;> decide
  rw [List.length_drop]
  omega

end ContentAlgorithm

end DidMessaging

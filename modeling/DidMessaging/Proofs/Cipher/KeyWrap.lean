import DidMessaging.Cipher.KeyWrap
import DidMessaging.Proofs.Cipher.Aes
import DidMessaging.Proofs.Pieces

namespace DidMessaging.KeyWrap

/-! Each pass is taken back, from the last piece to the first and from the last pass to the first.
Each pass over pieces that were taken back comes to them again, so that nothing else than wrapped
keys can be unwrapped. -/

/-- A check value and pieces of eight octets each. -/
structure Sized (check : Bytes) (ps : List Bytes) : Prop where
  check : check.length = 8
  pieces : ∀ p ∈ ps, p.length = 8

theorem length_pass (keys : List Aes.Block) (step : Nat) (check : Bytes) (ps : List Bytes) :
    (pass keys step check ps).2.length = ps.length := by
  induction ps generalizing step check with
  | nil => rfl
  | cons p ps ih => simp only [pass, List.length_cons, ih]

theorem length_mixed (keys : List Aes.Block) (bytes : Bytes) (step : Nat) :
    (Bytes.xor ((Aes.encrypt keys bytes).take 8) (Bytes.ofNat 8 step)).length = 8 := by
  simp

theorem sized_pass (keys : List Aes.Block) (step : Nat) {check : Bytes} {ps : List Bytes}
    (sized : Sized check ps) :
    Sized (pass keys step check ps).1 (pass keys step check ps).2 := by
  induction ps generalizing step check with
  | nil => exact sized
  | cons p ps ih =>
      obtain ⟨first, others⟩ := List.forall_mem_cons.mp sized.pieces
      have rest := ih (step + 1) ⟨length_mixed keys (check ++ p) step, others⟩
      refine ⟨rest.check, ?_⟩
      simp only [pass]
      exact List.forall_mem_cons.mpr ⟨by simp, rest.pieces⟩

theorem unpass_pass (keys : List Aes.Block) (step : Nat) {check : Bytes} {ps : List Bytes}
    (sized : Sized check ps) :
    unpass keys step (pass keys step check ps).1 (pass keys step check ps).2 = (check, ps) := by
  induction ps generalizing step check with
  | nil => rfl
  | cons p ps ih =>
      obtain ⟨first, others⟩ := List.forall_mem_cons.mp sized.pieces
      have undone := ih (step + 1) ⟨length_mixed keys (check ++ p) step, others⟩
      have block : (check ++ p).length = 16 := by rw [List.length_append, sized.check, first]
      simp only [pass, unpass, undone]
      rw [Bytes.xor_xor_cancel (by simp), List.take_append_drop, Aes.decrypt_encrypt keys block,
        List.take_left' sized.check, List.drop_left' sized.check]

theorem length_unpass (keys : List Aes.Block) (step : Nat) (check : Bytes) (ps : List Bytes) :
    (unpass keys step check ps).2.length = ps.length := by
  induction ps generalizing step check with
  | nil => rfl
  | cons p ps ih => simp only [unpass, List.length_cons, ih]

theorem sized_unpass (keys : List Aes.Block) (step : Nat) {check : Bytes} {ps : List Bytes}
    (sized : Sized check ps) :
    Sized (unpass keys step check ps).1 (unpass keys step check ps).2 := by
  induction ps generalizing step with
  | nil => exact sized
  | cons p ps ih =>
      have rest := ih (step + 1) ⟨sized.check, (List.forall_mem_cons.mp sized.pieces).2⟩
      simp only [unpass]
      exact ⟨by simp, List.forall_mem_cons.mpr ⟨by simp, rest.pieces⟩⟩

theorem pass_unpass (keys : List Aes.Block) (step : Nat) {check : Bytes} {ps : List Bytes}
    (sized : Sized check ps) :
    pass keys step (unpass keys step check ps).1 (unpass keys step check ps).2 = (check, ps) := by
  induction ps generalizing step with
  | nil => rfl
  | cons p ps ih =>
      obtain ⟨first, others⟩ := List.forall_mem_cons.mp sized.pieces
      have redone := ih (step + 1) ⟨sized.check, others⟩
      -- The pieces behind are taken back first, and the check value that they leave is mixed here.
      have before := (sized_unpass keys (step + 1) ⟨sized.check, others⟩).check
      have mixed :
          (Bytes.xor (unpass keys (step + 1) check ps).1 (Bytes.ofNat 8 step)).length = 8 := by
        rw [Bytes.length_xor, before, Bytes.length_ofNat, Nat.min_self]
      simp only [pass, unpass, List.take_append_drop]
      rw [Aes.encrypt_decrypt_block keys (by rw [List.length_append, mixed, first]),
        List.take_left' mixed, List.drop_left' mixed,
        Bytes.xor_xor_cancel (by simp [before]), redone]

theorem sized_passes (keys : List Aes.Block) (turns : List Nat) {check : Bytes} {ps : List Bytes}
    (sized : Sized check ps) :
    Sized (passes keys turns check ps).1 (passes keys turns check ps).2 := by
  induction turns generalizing check ps with
  | nil => exact sized
  | cons turn turns ih => exact ih (sized_pass keys _ sized)

theorem length_passes (keys : List Aes.Block) (turns : List Nat) (check : Bytes)
    (ps : List Bytes) : (passes keys turns check ps).2.length = ps.length := by
  induction turns generalizing check ps with
  | nil => rfl
  | cons turn turns ih => exact (ih _ _).trans (length_pass keys _ check ps)

theorem unpasses_passes (keys : List Aes.Block) (turns : List Nat) {check : Bytes}
    {ps : List Bytes} (sized : Sized check ps) :
    unpasses keys turns (passes keys turns check ps).1 (passes keys turns check ps).2 =
      (check, ps) := by
  induction turns generalizing check ps with
  | nil => rfl
  | cons turn turns ih =>
      have undone := ih (sized_pass keys (ps.length * turn + 1) sized)
      rw [unpasses, List.foldr_cons, ← unpasses, passes, List.foldl_cons, ← passes, undone]
      simp only [length_pass, unpass_pass keys _ sized]

theorem sized_unpasses (keys : List Aes.Block) (turns : List Nat) {check : Bytes}
    {ps : List Bytes} (sized : Sized check ps) :
    Sized (unpasses keys turns check ps).1 (unpasses keys turns check ps).2 := by
  induction turns with
  | nil => exact sized
  | cons turn turns ih => exact sized_unpass keys _ ih

theorem passes_unpasses (keys : List Aes.Block) (turns : List Nat) {check : Bytes}
    {ps : List Bytes} (sized : Sized check ps) :
    passes keys turns (unpasses keys turns check ps).1 (unpasses keys turns check ps).2 =
      (check, ps) := by
  induction turns with
  | nil => rfl
  | cons turn turns ih =>
      have later := sized_unpasses keys turns sized
      rw [unpasses, List.foldr_cons, ← unpasses, passes, List.foldl_cons, ← passes]
      simp only [length_unpass, pass_unpass keys _ later, ih]

theorem exists_wrap {wrappingKey key : Bytes} (sized : wrappingKey.length = 32)
    (whole : key.length % 8 = 0) : ∃ wrapped, wrap wrappingKey key = .ok wrapped :=
  ⟨_, (if_neg (not_not.mpr sized)).trans (if_neg (not_not.mpr whole))⟩

/-- What is wrapped is the check value and the pieces of the key after all passes. -/
theorem wrap_sound {wrappingKey key wrapped : Bytes} (wraps : wrap wrappingKey key = .ok wrapped) :
    wrappingKey.length = 32 ∧ Sized checkValue (chunks 8 key) ∧
      wrapped = (passes (Aes.roundKeys wrappingKey) turns checkValue (chunks 8 key)).1 ++
        (passes (Aes.roundKeys wrappingKey) turns checkValue (chunks 8 key)).2.flatten := by
  unfold wrap at wraps
  split at wraps
  · contradiction
  split at wraps
  · contradiction
  next keySize whole =>
    exact ⟨not_not.mp keySize,
      ⟨rfl, fun p member => length_of_mem_chunks (by decide) (not_not.mp whole) member⟩,
      (Except.ok.inj wraps).symm⟩

theorem unwrap_wrap {wrappingKey key wrapped : Bytes} (wraps : wrap wrappingKey key = .ok wrapped) :
    unwrap wrappingKey wrapped = .ok key := by
  obtain ⟨keySize, sized, same⟩ := wrap_sound wraps
  have after := sized_passes (Aes.roundKeys wrappingKey) turns sized
  have undone := unpasses_passes (Aes.roundKeys wrappingKey) turns sized
  generalize passes (Aes.roundKeys wrappingKey) turns checkValue (chunks 8 key) = passed
    at same after undone
  have size : (passed.1 ++ passed.2.flatten).length = 8 + 8 * passed.2.length := by
    rw [List.length_append, after.check, length_flatten_of_sized after.pieces]
  rw [same, unwrap, if_neg (not_not.mpr keySize), size, if_neg (by omega)]
  simp only [List.take_left' after.check, List.drop_left' after.check,
    chunks_flatten (by decide) after.pieces, undone]
  rw [flatten_chunks (by decide)]
  rfl

theorem length_of_wrap {wrappingKey key wrapped : Bytes}
    (wraps : wrap wrappingKey key = .ok wrapped) : wrapped.length = key.length + 8 := by
  obtain ⟨-, sized, rfl⟩ := wrap_sound wraps
  have after := sized_passes (Aes.roundKeys wrappingKey) turns sized
  have whole := length_flatten_of_sized sized.pieces
  rw [flatten_chunks (by decide)] at whole
  rw [List.length_append, after.check, length_flatten_of_sized after.pieces, length_passes, whole,
    Nat.add_comm]

/-- What is unwrapped to a key is what the key is wrapped to. -/
theorem wrap_of_unwrap {wrappingKey key wrapped : Bytes}
    (unwraps : unwrap wrappingKey wrapped = .ok key) : wrap wrappingKey key = .ok wrapped := by
  unfold unwrap at unwraps
  split at unwraps
  · contradiction
  split at unwraps
  · contradiction
  next keySize whole =>
    obtain ⟨whole, least⟩ : wrapped.length % 8 = 0 ∧ 8 ≤ wrapped.length := by omega
    have sized : Sized (wrapped.take 8) (chunks 8 (wrapped.drop 8)) := by
      refine ⟨by rw [List.length_take]; omega, fun p member => ?_⟩
      exact length_of_mem_chunks (by decide) (by rw [List.length_drop]; omega) member
    have before := sized_unpasses (Aes.roundKeys wrappingKey) turns sized
    have redone := passes_unpasses (Aes.roundKeys wrappingKey) turns sized
    generalize unpasses (Aes.roundKeys wrappingKey) turns (wrapped.take 8)
      (chunks 8 (wrapped.drop 8)) = unpassed at unwraps before redone
    dsimp only at unwraps
    split at unwraps
    · next check =>
        obtain rfl := Except.ok.inj unwraps
        -- Wrapping cuts the key into the very pieces that were taken back.
        rw [wrap, if_neg keySize, length_flatten_of_sized before.pieces,
          if_neg (by rw [Nat.mul_mod_right]; decide)]
        rw [check] at redone
        simp only [chunks_flatten (by decide) before.pieces, redone]
        rw [flatten_chunks (by decide), List.take_append_drop]
    · contradiction

/-- Wrapping takes the keys that consist of whole pieces, one by one, to all that can be unwrapped:
it adds a check value of eight octets, and unwrapping is its inverse from either side. -/
theorem wraps_onto_unwrapped {wrappingKey : Bytes} (sized : wrappingKey.length = 32) :
    (∀ key : Bytes, key.length % 8 = 0 → ∃ wrapped, wrap wrappingKey key = .ok wrapped ∧
      wrapped.length = key.length + 8 ∧ unwrap wrappingKey wrapped = .ok key) ∧
    ∀ wrapped key, unwrap wrappingKey wrapped = .ok key → wrap wrappingKey key = .ok wrapped := by
  constructor
  · intro key whole
    obtain ⟨wrapped, wraps⟩ := exists_wrap sized whole
    exact ⟨wrapped, wraps, length_of_wrap wraps, unwrap_wrap wraps⟩
  · intro wrapped key unwraps
    exact wrap_of_unwrap unwraps

/-! The vector of RFC 3394 for a key of 256 bits and a wrapping key of the same size. -/

def vectorWrappingKey : Bytes := (List.range 32).map UInt8.ofNat

def vectorKey : Bytes :=
  Bytes.ofNat 32 0x00112233445566778899AABBCCDDEEFF000102030405060708090A0B0C0D0E0F

def vectorWrapped : Bytes :=
  Bytes.ofNat 40
    0x28C9F404C4B810F4CBCCB35CFB87F8263F5786E2D80ED326CBC7F0E71A99F43BFB988B9B7A02DD21

theorem wraps_onto_unwrapped_vector :
    vectorWrappingKey.length = 32 ∧ wrap vectorWrappingKey vectorKey = .ok vectorWrapped ∧
      vectorWrapped.length = vectorKey.length + 8 ∧
      unwrap vectorWrappingKey vectorWrapped = .ok vectorKey := by
  have sized : vectorWrappingKey.length = 32 := by decide
  have vector : wrap vectorWrappingKey vectorKey = .ok vectorWrapped := by decide +kernel
  obtain ⟨wrapped, wraps, size, unwraps⟩ := (wraps_onto_unwrapped sized).1 vectorKey (by decide)
  obtain rfl : vectorWrapped = wrapped := Except.ok.inj (vector.symm.trans wraps)
  exact ⟨sized, wraps, size, unwraps⟩

end DidMessaging.KeyWrap

import DidMessaging.Cipher.Aes

namespace DidMessaging.Aes

/-! Encryption and decryption of a block undo each other, step by step. Mixing is linear, so that it
is enough to undo it where one octet of a column is not zero. -/

/-- What holds of all numbers of eight bits holds of all octets. -/
theorem octet_of_forall {p : UInt8 → Prop} (all : ∀ n < 256, p (UInt8.ofNat n)) (x : UInt8) :
    p x := by
  have octet := all x.toNat x.toNat_lt
  rwa [UInt8.ofNat_toNat] at octet

theorem unsubstitute_substitute (x : UInt8) : unsubstitute (substitute x) = x :=
  octet_of_forall (p := fun x => unsubstitute (substitute x) = x) (by decide +kernel) x

theorem substitute_unsubstitute (x : UInt8) : substitute (unsubstitute x) = x :=
  octet_of_forall (p := fun x => substitute (unsubstitute x) = x) (by decide +kernel) x

/-! Doubling adds up. -/

theorem double_eq (x : UInt8) : double x = (x <<< 1) ^^^ (x >>> 7) * (0x1B : UInt8) :=
  octet_of_forall (p := fun x => double x = (x <<< 1) ^^^ (x >>> 7) * (0x1B : UInt8))
    (by decide +kernel) x

theorem shiftRight_seven (x : UInt8) : x >>> 7 = 0 ∨ x >>> 7 = 1 :=
  octet_of_forall (p := fun x => x >>> 7 = 0 ∨ x >>> 7 = 1) (by decide +kernel) x

theorem double_xor (x y : UInt8) : double (x ^^^ y) = double x ^^^ double y := by
  have carry : (x >>> 7 ^^^ y >>> 7) * (0x1B : UInt8) =
      (x >>> 7) * (0x1B : UInt8) ^^^ (y >>> 7) * (0x1B : UInt8) := by
    rcases shiftRight_seven x with left | left <;> rcases shiftRight_seven y with right | right <;>
      rw [left, right] <;> rfl
  rw [double_eq, double_eq, double_eq, UInt8.shiftLeft_xor, UInt8.shiftRight_xor, carry]
  ac_rfl

theorem double_zero : double 0 = 0 := rfl

theorem xor_left_comm (x y z : UInt8) : x ^^^ (y ^^^ z) = y ^^^ (x ^^^ z) := by
  rw [← UInt8.xor_assoc, UInt8.xor_comm x, UInt8.xor_assoc]

theorem xor_cancel_left (x y : UInt8) : x ^^^ (x ^^^ y) = y := by
  rw [← UInt8.xor_assoc, UInt8.xor_self, UInt8.zero_xor]

/-! Columns. -/

namespace Column

theorem xor_self_right (x y : Column) : (x.xor y).xor y = x := by
  simp only [xor, UInt8.xor_assoc, UInt8.xor_self, UInt8.xor_zero]

theorem map_map (f g : UInt8 → UInt8) (x : Column) : (x.map g).map f = x.map fun o => f (g o) := rfl

theorem map_id {f : UInt8 → UInt8} (same : ∀ o, f o = o) (x : Column) : x.map f = x := by
  simp only [map, same]

/-- A column is the sum of four with one octet each. -/
theorem eq_xor_octets (x : Column) :
    x = ((xor ⟨x.a, 0, 0, 0⟩ ⟨0, x.b, 0, 0⟩).xor ⟨0, 0, x.c, 0⟩).xor ⟨0, 0, 0, x.d⟩ := by
  simp only [xor, UInt8.xor_zero, UInt8.zero_xor]

end Column

theorem mixColumn_xor (x y : Column) : mixColumn (x.xor y) = (mixColumn x).xor (mixColumn y) := by
  simp only [mixColumn, Column.xor, double_xor, Column.mk.injEq]
  refine ⟨?_, ?_, ?_, ?_⟩ <;> ac_rfl

theorem unmixColumn_xor (x y : Column) :
    unmixColumn (x.xor y) = (unmixColumn x).xor (unmixColumn y) := by
  simp only [unmixColumn, Column.xor, double_xor, Column.mk.injEq]
  refine ⟨?_, ?_, ?_, ?_⟩ <;> ac_rfl

/-- A linear map of columns that does not tell the places apart is known from one place. -/
theorem eq_self_of_linear {f : Column → Column} (add : ∀ x y, f (x.xor y) = (f x).xor (f y))
    (rotate : ∀ x, f x.rotate = (f x).rotate) (octet : ∀ o, f ⟨o, 0, 0, 0⟩ = ⟨o, 0, 0, 0⟩)
    (x : Column) : f x = x := by
  have last (o : UInt8) : f ⟨0, 0, 0, o⟩ = ⟨0, 0, 0, o⟩ :=
    (rotate ⟨o, 0, 0, 0⟩).trans (by rw [octet, Column.rotate])
  have third (o : UInt8) : f ⟨0, 0, o, 0⟩ = ⟨0, 0, o, 0⟩ :=
    (rotate ⟨0, 0, 0, o⟩).trans (by rw [last, Column.rotate])
  have second (o : UInt8) : f ⟨0, o, 0, 0⟩ = ⟨0, o, 0, 0⟩ :=
    (rotate ⟨0, 0, o, 0⟩).trans (by rw [third, Column.rotate])
  rw [x.eq_xor_octets, add, add, add, octet, second, third, last]

theorem unmixColumn_mixColumn (x : Column) : unmixColumn (mixColumn x) = x := by
  apply eq_self_of_linear (f := fun x => unmixColumn (mixColumn x))
  · intro x y
    rw [mixColumn_xor, unmixColumn_xor]
  · exact fun _ => rfl
  · intro o
    simp only [mixColumn, unmixColumn, double_zero, UInt8.xor_zero, UInt8.zero_xor, double_xor,
      UInt8.xor_self, UInt8.xor_comm, xor_left_comm, xor_cancel_left]

theorem mixColumn_unmixColumn (x : Column) : mixColumn (unmixColumn x) = x := by
  apply eq_self_of_linear (f := fun x => mixColumn (unmixColumn x))
  · intro x y
    rw [unmixColumn_xor, mixColumn_xor]
  · exact fun _ => rfl
  · intro o
    simp only [mixColumn, unmixColumn, double_zero, UInt8.xor_zero, UInt8.zero_xor, double_xor,
      UInt8.xor_self, UInt8.xor_assoc, UInt8.xor_comm, xor_left_comm, xor_cancel_left]

/-! Blocks. -/

namespace Block

theorem xor_self_right (s t : Block) : (s.xor t).xor t = s := by
  simp only [xor, Column.xor_self_right]

theorem map_map (f g : Column → Column) (s : Block) :
    (s.map g).map f = s.map fun x => f (g x) := rfl

theorem map_id {f : Column → Column} (same : ∀ x, f x = x) (s : Block) : s.map f = s := by
  simp only [map, same]

theorem ofBytes_toBytes (s : Block) : ofBytes s.toBytes = s := rfl

theorem toBytes_ofBytes {bytes : Bytes} (sized : bytes.length = 16) :
    (ofBytes bytes).toBytes = bytes := by
  match bytes, sized with
  | [_, _, _, _, _, _, _, _, _, _, _, _, _, _, _, _], _ => rfl

end Block

theorem unsubstitute_block (s : Block) :
    (s.map (·.map substitute)).map (·.map unsubstitute) = s := by
  rw [Block.map_map]
  exact Block.map_id (fun x => (x.map_map _ _).trans (x.map_id unsubstitute_substitute)) s

theorem substitute_block (s : Block) :
    (s.map (·.map unsubstitute)).map (·.map substitute) = s := by
  rw [Block.map_map]
  exact Block.map_id (fun x => (x.map_map _ _).trans (x.map_id substitute_unsubstitute)) s

theorem unmix_block (s : Block) : (s.map mixColumn).map unmixColumn = s := by
  rw [Block.map_map]
  exact Block.map_id unmixColumn_mixColumn s

theorem mix_block (s : Block) : (s.map unmixColumn).map mixColumn = s := by
  rw [Block.map_map]
  exact Block.map_id mixColumn_unmixColumn s

theorem unshiftRows_shiftRows (s : Block) : unshiftRows (shiftRows s) = s := rfl

theorem shiftRows_unshiftRows (s : Block) : shiftRows (unshiftRows s) = s := rfl

theorem unrounds_rounds (keys : List Block) (s : Block) : unrounds keys (rounds keys s) = s := by
  induction keys generalizing s with
  | nil => rfl
  | cons k keys ih =>
      cases keys with
      | nil =>
          rw [rounds, unrounds, Block.xor_self_right, unshiftRows_shiftRows, unsubstitute_block]
      | cons next keys =>
          rw [rounds, unrounds, ih, Block.xor_self_right, unmix_block, unshiftRows_shiftRows,
            unsubstitute_block]
          all_goals simp

theorem rounds_unrounds (keys : List Block) (s : Block) : rounds keys (unrounds keys s) = s := by
  induction keys with
  | nil => rfl
  | cons k keys ih =>
      cases keys with
      | nil =>
          rw [rounds, unrounds, substitute_block, shiftRows_unshiftRows, Block.xor_self_right]
      | cons next keys =>
          rw [rounds, unrounds, substitute_block, shiftRows_unshiftRows, mix_block,
            Block.xor_self_right, ih]
          all_goals simp

theorem unpermute_permute (keys : List Block) (s : Block) :
    unpermute keys (permute keys s) = s := by
  cases keys with
  | nil => rfl
  | cons k keys => rw [permute, unpermute, unrounds_rounds, Block.xor_self_right]

theorem permute_unpermute (keys : List Block) (s : Block) :
    permute keys (unpermute keys s) = s := by
  cases keys with
  | nil => rfl
  | cons k keys => rw [permute, unpermute, Block.xor_self_right, rounds_unrounds]

/-- Decrypting a block that was encrypted gives the block. -/
theorem decrypt_encrypt (keys : List Block) {block : Bytes} (sized : block.length = 16) :
    decrypt keys (encrypt keys block) = block := by
  rw [decrypt, encrypt, Block.ofBytes_toBytes, unpermute_permute, Block.toBytes_ofBytes sized]

/-- Encrypting a block that was decrypted gives the block. -/
theorem encrypt_decrypt_block (keys : List Block) {block : Bytes} (sized : block.length = 16) :
    encrypt keys (decrypt keys block) = block := by
  rw [decrypt, encrypt, Block.ofBytes_toBytes, permute_unpermute, Block.toBytes_ofBytes sized]

end DidMessaging.Aes

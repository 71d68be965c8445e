import DidMessaging.Bytes
import Mathlib.Tactic.Ring

namespace DidMessaging.Bytes

theorem foldl_octets (n : Nat) (bytes : Bytes) :
    bytes.foldl (fun n b => n * 256 + b.toNat) n = n * 256 ^ bytes.length + toNat bytes := by
  induction bytes generalizing n with
  | nil => simp [toNat]
  | cons b bytes ih =>
      rw [toNat, List.foldl_cons, List.foldl_cons, ih, ih (0 * 256 + b.toNat), List.length_cons]
      ring

theorem toNat_cons (b : UInt8) (bytes : Bytes) :
    toNat (b :: bytes) = b.toNat * 256 ^ bytes.length + toNat bytes := by
  rw [toNat, List.foldl_cons, foldl_octets, Nat.zero_mul, Nat.zero_add]

theorem toNat_ofNat (width n : Nat) : toNat (ofNat width n) = n % 256 ^ width := by
  induction width with
  | zero => simp [ofNat, toNat, Nat.mod_one]
  | succ width ih =>
      have shifted : n >>> (8 * width) = n / 256 ^ width := by
        rw [Nat.shiftRight_eq_div_pow, Nat.pow_mul]
      have octet : (UInt8.ofNat (n / 256 ^ width)).toNat = n / 256 ^ width % 256 :=
        UInt8.toNat_ofNat'
      rw [ofNat, toNat_cons, ih, length_ofNat, shifted, octet, Nat.mod_pow_succ, Nat.add_comm,
        Nat.mul_comm]

/-- Numbers that fit into a field are told apart by it. -/
theorem ofNat_inj {n m : Nat} (small : n < 256 ^ width) (small' : m < 256 ^ width) :
    ofNat width n = ofNat width m ↔ n = m := by
  constructor
  · intro same
    have held := congrArg toNat same
    rwa [toNat_ofNat, toNat_ofNat, Nat.mod_eq_of_lt small, Nat.mod_eq_of_lt small'] at held
  · rintro rfl
    rfl

/-- A field is cut off in front of whatever follows it. -/
theorem ofNat_append_inj {n m : Nat} (small : n < 256 ^ width) (small' : m < 256 ^ width)
    (same : ofNat width n ++ rest = ofNat width m ++ rest') : n = m ∧ rest = rest' := by
  have sizes : (ofNat width n).length = (ofNat width m).length := by simp
  obtain ⟨fields, rest⟩ := List.append_inj same sizes
  exact ⟨(ofNat_inj small small').mp fields, rest⟩

theorem append_ofNat_inj {n m : Nat} (small : n < 256 ^ width) (small' : m < 256 ^ width)
    (same : front ++ ofNat width n = front' ++ ofNat width m) : front = front' ∧ n = m := by
  have sizes : (ofNat width n).length = (ofNat width m).length := by simp
  obtain ⟨front, fields⟩ := List.append_inj' same sizes
  exact ⟨front, (ofNat_inj small small').mp fields⟩

end DidMessaging.Bytes

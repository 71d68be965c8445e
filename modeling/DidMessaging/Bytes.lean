namespace DidMessaging

/-! Octet strings are lists. Numbers are laid out in fields of a fixed width, most significant octet
first unless the name says otherwise. -/

abbrev Bytes := List UInt8

namespace Bytes

/-- The big-endian field of `width` octets that holds `n` modulo `256 ^ width`. -/
def ofNat : (width : Nat) → (n : Nat) → Bytes
  | 0, _ => []
  | width + 1, n => UInt8.ofNat (n >>> (8 * width)) :: ofNat width n

def toNat (bytes : Bytes) : Nat :=
  bytes.foldl (fun n b => n * 256 + b.toNat) 0

/-- The little-endian field of `width` octets that holds `n` modulo `256 ^ width`. -/
def ofNatLE : (width : Nat) → (n : Nat) → Bytes
  | 0, _ => []
  | width + 1, n => UInt8.ofNat n :: ofNatLE width (n / 256)

def toNatLE : Bytes → Nat
  | [] => 0
  | b :: rest => b.toNat + 256 * toNatLE rest

def xor (a b : Bytes) : Bytes :=
  List.zipWith (· ^^^ ·) a b

def zeros (n : Nat) : Bytes :=
  List.replicate n 0

/-- The zero octets that fill the last piece of `size` after `n` octets. -/
def fill (size n : Nat) : Bytes :=
  zeros ((size - n % size) % size)

@[simp] theorem length_ofNat (width n : Nat) : (ofNat width n).length = width := by
  induction width with
  | zero => rfl
  | succ width ih => simp [ofNat, ih]

@[simp] theorem length_ofNatLE (width n : Nat) : (ofNatLE width n).length = width := by
  induction width generalizing n with
  | zero => rfl
  | succ width ih => simp [ofNatLE, ih]

@[simp] theorem length_xor (a b : Bytes) : (xor a b).length = min a.length b.length := by
  simp [xor]

@[simp] theorem length_zeros (n : Nat) : (zeros n).length = n := by
  simp [zeros]

@[simp] theorem xor_nil_left (b : Bytes) : xor [] b = [] := rfl

@[simp] theorem xor_cons_cons (x y : UInt8) (a b : Bytes) :
    xor (x :: a) (y :: b) = (x ^^^ y) :: xor a b := rfl

theorem xor_xor_cancel {a b : Bytes} (h : a.length ≤ b.length) : xor (xor a b) b = a := by
  induction a generalizing b with
  | nil => rfl
  | cons x a ih =>
    cases b with
    | nil => simp at h
    | cons y b =>
      simp only [xor_cons_cons, ih (by simpa using h)]
      rw [UInt8.xor_assoc, UInt8.xor_self, UInt8.xor_zero]

end Bytes

end DidMessaging

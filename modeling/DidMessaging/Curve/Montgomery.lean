import DidMessaging.Bytes
import DidMessaging.Curve.Modular

namespace DidMessaging.X25519

/-! Agreement on the first coordinate alone, on the Montgomery form of Curve25519. -/

def p : Nat := Nat.pow 2 255 - 19

structure Ratio where
  (x z : Nat)

/-- Doubles the first point and adds it to the second, whose difference from it is `u`. -/
def double (u : Nat) (s t : Ratio) : Ratio × Ratio :=
  let a := Modular.add p s.x s.z
  let b := Modular.sub p s.x s.z
  let aa := Modular.mul p a a
  let bb := Modular.mul p b b
  let e := Modular.sub p aa bb
  let da := Modular.mul p (Modular.sub p t.x t.z) a
  let cb := Modular.mul p (Modular.add p t.x t.z) b
  let sum := Modular.add p da cb
  let difference := Modular.sub p da cb
  (⟨Modular.mul p aa bb, Modular.mul p e (Modular.add p aa (Modular.mul p 121665 e))⟩,
    ⟨Modular.mul p sum sum, Modular.mul p u (Modular.mul p difference difference)⟩)

/-- One rung: the pair holds a multiple of the point and the next one. -/
def rung (u : Nat) (pair : Ratio × Ratio) (bit : Bool) : Ratio × Ratio :=
  if bit then (double u pair.2 pair.1).swap else double u pair.1 pair.2

/-- The multiple of the point with coordinate `u` by a scalar of 255 bits. -/
def multiple (scalar u : Nat) : Nat :=
  let (s, _) := (bitsOf 255 scalar).foldl (rung u) (⟨1, 0⟩, ⟨u, 1⟩)
  Modular.mul p s.x (Modular.inv p s.z)

/-- The scalar of a private key: a multiple of eight with its highest bit in a fixed place. -/
def scalar (key : Bytes) : Nat :=
  let n := Bytes.toNatLE key % Nat.pow 2 254
  n - n % 8 + Nat.pow 2 254

/-- The coordinate of a public key; its highest bit does not count. -/
def coordinate (key : Bytes) : Nat := Bytes.toNatLE key % Nat.pow 2 255 % p

def agree (privateKey publicKey : Bytes) : Bytes :=
  Bytes.ofNatLE 32 (multiple (scalar privateKey) (coordinate publicKey))

def publicKey (privateKey : Bytes) : Bytes :=
  Bytes.ofNatLE 32 (multiple (scalar privateKey) 9)

@[simp] theorem length_agree (privateKey publicKey : Bytes) :
    (agree privateKey publicKey).length = 32 := by
  simp [agree]

@[simp] theorem length_publicKey (privateKey : Bytes) : (publicKey privateKey).length = 32 := by
  simp [publicKey]

end DidMessaging.X25519

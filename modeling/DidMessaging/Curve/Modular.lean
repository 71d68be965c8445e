import DidMessaging.Bits

namespace DidMessaging.Modular

/-! Arguments and results lie below the modulus `p`. -/

def add (p x y : Nat) : Nat := (x + y) % p

def sub (p x y : Nat) : Nat := (x + (p - y)) % p

def mul (p x y : Nat) : Nat := x * y % p

def neg (p x : Nat) : Nat := (p - x) % p

def powBits (p x : Nat) (bits : List Bool) : Nat :=
  bits.foldl (fun acc b => let square := acc * acc % p; if b then square * x % p else square) 1

def pow (p x e : Nat) : Nat := powBits p x (bitsOf (e.log2 + 1) e)

/-- The inverse modulo a prime; zero for zero. -/
def inv (p x : Nat) : Nat := pow p x (p - 2)

end DidMessaging.Modular
